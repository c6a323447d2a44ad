import BpfCompiler.Text

/-!
# Types of the target language

Pointers say what they point to, and print so, but no operation tells two pointer types apart:
`Ty.agrees` is the equality that the instructions are checked with, and there all pointers agree.
-/

namespace BpfCompiler.IR

inductive Ty where
  | int (width : Nat)
  | float
  | double
  | ptr (pointee : Ty)
  | array (length : Nat) (element : Ty)
  | struct (fields : List Ty)
  | func (result : Ty) (params : List Ty) (variadic : Bool)
deriving Inhabited

namespace Ty

mutual

/-- Whether two types are the same, pointers by what they point to. -/
def beq : Ty → Ty → Bool
  | .int a, .int b => a == b
  | .float, .float | .double, .double => true
  | .ptr a, .ptr b => beq a b
  | .array n a, .array m b => n == m && beq a b
  | .struct as, .struct bs => beqAll as bs
  | .func r ps v, .func r' ps' v' => beq r r' && beqAll ps ps' && v == v'
  | _, _ => false

def beqAll : List Ty → List Ty → Bool
  | [], [] => true
  | a :: as, b :: bs => beq a b && beqAll as bs
  | _, _ => false

end

mutual

theorem eq_of_beq : (a b : Ty) → beq a b = true → a = b
  | .int a, b, h => by cases b <;> simp_all [beq]
  | .float, b, h => by cases b <;> simp_all [beq]
  | .double, b, h => by cases b <;> simp_all [beq]
  | .ptr a, b, h => by
    cases b <;> simp only [beq, Bool.false_eq_true] at h
    rw [eq_of_beq a _ h]
  | .array n a, b, h => by
    cases b <;> simp only [beq, Bool.false_eq_true, Bool.and_eq_true, beq_iff_eq] at h
    rw [h.1, eq_of_beq a _ h.2]
  | .struct as, b, h => by
    cases b <;> simp only [beq, Bool.false_eq_true] at h
    rw [eq_of_beqAll as _ h]
  | .func r ps v, b, h => by
    cases b <;> simp only [beq, Bool.false_eq_true, Bool.and_eq_true, beq_iff_eq] at h
    rw [eq_of_beq r _ h.1.1, eq_of_beqAll ps _ h.1.2, h.2]

theorem eq_of_beqAll : (as bs : List Ty) → beqAll as bs = true → as = bs
  | [], bs, h => by cases bs <;> simp_all [beqAll]
  | a :: as, bs, h => by
    cases bs <;> simp only [beqAll, Bool.false_eq_true, Bool.and_eq_true] at h
    rw [eq_of_beq a _ h.1, eq_of_beqAll as _ h.2]

end

mutual

theorem beq_self : (a : Ty) → beq a a = true
  | .int _ | .float | .double => by simp [beq]
  | .ptr a => by simp [beq, beq_self a]
  | .array _ a => by simp [beq, beq_self a]
  | .struct as => by simp [beq, beqAll_self as]
  | .func r ps _ => by simp [beq, beq_self r, beqAll_self ps]

theorem beqAll_self : (as : List Ty) → beqAll as as = true
  | [] => by simp [beqAll]
  | a :: as => by simp [beqAll, beq_self a, beqAll_self as]

end

instance : DecidableEq Ty := fun a b =>
  decidable_of_iff (beq a b = true) ⟨eq_of_beq a b, fun h => h ▸ beq_self a⟩

abbrev i1 : Ty := .int 1
abbrev i8 : Ty := .int 8
abbrev i32 : Ty := .int 32
abbrev i64 : Ty := .int 64

/-- The pointer of unknown target. -/
abbrev bytePtr : Ty := .ptr i8

mutual

/-- Equality of types with all pointers alike. -/
def agrees : Ty → Ty → Bool
  | .int a, .int b => a == b
  | .float, .float | .double, .double => true
  | .ptr _, .ptr _ => true
  | .array n a, .array m b => n == m && agrees a b
  | .struct as, .struct bs => allAgree as bs
  | .func r ps v, .func r' ps' v' => agrees r r' && allAgree ps ps' && v == v'
  | _, _ => false

def allAgree : List Ty → List Ty → Bool
  | [], [] => true
  | a :: as, b :: bs => agrees a b && allAgree as bs
  | _, _ => false

end

def isPointer : Ty → Bool
  | .ptr _ => true
  | _ => false

mutual

def render : Ty → String
  | .int w => "i" ++ toString w
  | .float => "float"
  | .double => "double"
  | .ptr t => t.render ++ "*"
  | .array n t => "[" ++ toString n ++ " x " ++ t.render ++ "]"
  | .struct ts => "\x7b" ++ String.intercalate ", " (renderAll ts) ++ "\x7d"
  | .func r ps variadic =>
    let rest := if variadic then ["..."] else []
    r.render ++ " (" ++ String.intercalate ", " (renderAll ps ++ rest) ++ ")"

def renderAll : List Ty → List String
  | [] => []
  | t :: ts => t.render :: renderAll ts

end

end Ty

end BpfCompiler.IR
