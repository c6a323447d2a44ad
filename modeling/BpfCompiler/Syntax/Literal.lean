import BpfCompiler.Number.Shortest
import BpfCompiler.Text.Quoted

/-!
# Literals

The constants that a source text can write.  Each has two texts: `shown`, as a message or an
operand shows it, and `quoted`, as source text would write it again.  They differ only for texts.
An integer has these texts only up to a certain length.
-/

namespace BpfCompiler

inductive Literal where
  | none
  | ellipsis
  | bool (value : Bool)
  | int (value : Int)
  | float (value : Double)
  | imaginary (value : Double)
  | text (value : Text)
  | bytes (value : List UInt8)
deriving DecidableEq, Inhabited

namespace Literal

def quoted : Literal → Text
  | .none => "None"
  | .ellipsis => "Ellipsis"
  | .bool b => if b then "True" else "False"
  | .int n => toString n
  | .float d => d.render Double.literalStyle
  | .imaginary d => d.render Double.imaginaryStyle ++ "j"
  | .text t => t.quoted
  | .bytes b => Text.quotedBytes b

def shown : Literal → Text
  | .text t => t
  | l => l.quoted

/-- The first number that is too long to be shown: it has 4301 digits. -/
def shownLimit : Nat := Nat.pow 10 4300

/-- Whether a literal has a text. -/
def canShow : Literal → Bool
  | .int n => n.natAbs < shownLimit
  | _ => true

/-- The name of the literal's type, which return-type inference reports. -/
def typeName : Literal → String
  | .none => "NoneType"
  | .ellipsis => "ellipsis"
  | .bool _ => "bool"
  | .int _ => "int"
  | .float _ => "float"
  | .imaginary _ => "complex"
  | .text _ => "str"
  | .bytes _ => "bytes"

/-- Truth values count as integers. -/
def isInteger : Literal → Bool
  | .bool _ | .int _ => true
  | _ => false

/-- The integer a literal counts as. -/
def toInt? : Literal → Option Int
  | .bool b => some (if b then 1 else 0)
  | .int n => some n
  | _ => Option.none

end Literal

end BpfCompiler
