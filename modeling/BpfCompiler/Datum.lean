import BpfCompiler.Number.Shortest
import BpfCompiler.Text.Quoted

/-!
# Data from outside

The values that a caller hands in: parameters of a map, keys and entries of a table in user space, fields
of a trace event.  Numbers and truth values are compared by value, so `1`, `1.0` and `true` are one key.
-/

namespace BpfCompiler

inductive Datum where
  | null
  | bool (value : Bool)
  | int (value : Int)
  | float (value : Double)
  | text (value : Text)
  | list (items : List Datum)
  | dict (items : List (Text × Datum))
deriving Inhabited

namespace Datum

def ofString (s : String) : Datum := .text s

/-- Lists and dictionaries cannot be keys. -/
def isKey : Datum → Bool
  | .list _ | .dict _ => false
  | _ => true

/-- The integer that a number or truth value equals. -/
def toInt? : Datum → Option Int
  | .bool b => some (if b then 1 else 0)
  | .int n => some n
  | .float d => d.toInt?
  | _ => none

mutual

/-- Equality by value. -/
def same : Datum → Datum → Bool
  | .null, .null => true
  | .text a, .text b => a == b
  | .list as, .list bs => sameAll as bs
  | .dict as, .dict bs => as.length == bs.length && sameDict as bs
  | .float a, .float b => a.sameNumber b
  | a, b =>
    match a.toInt?, b.toInt? with
    | some m, some n => m == n
    | _, _ => false

def sameAll : List Datum → List Datum → Bool
  | [], [] => true
  | a :: as, b :: bs => same a b && sameAll as bs
  | _, _ => false

/-- Whether every entry of the first dictionary stands in the second. -/
def sameDict : List (Text × Datum) → List (Text × Datum) → Bool
  | [], _ => true
  | (k, a) :: as, bs =>
    (match bs.lookup k with
      | some b => same a b
      | none => false) && sameDict as bs

end

mutual

/-- The datum as source text would write it. -/
def quoted : Datum → Text
  | .null => "None"
  | .bool b => if b then "True" else "False"
  | .int n => toString n
  | .float d => d.render Double.literalStyle
  | .text t => t.quoted
  | .list items => ("[" : Text) ++ Text.join ", " (quotedAll items) ++ "]"
  | .dict items => ("\x7b" : Text) ++ Text.join ", " (quotedItems items) ++ "\x7d"

def quotedAll : List Datum → List Text
  | [] => []
  | d :: ds => d.quoted :: quotedAll ds

def quotedItems : List (Text × Datum) → List Text
  | [] => []
  | (k, d) :: rest => ((k.quoted : Text) ++ ": " ++ d.quoted) :: quotedItems rest

end

/-- The datum as a message shows it: a text as itself. -/
def shown : Datum → Text
  | .text t => t
  | d => d.quoted

end Datum

end BpfCompiler
