/-!
# Name scopes

A scope hands out names that it has not handed out before.  A name that is taken gets a number behind a
dot, counted for each base.  The empty name is always taken, so what has no name of its own is called
`.1`, `.2` and so on.
-/

namespace BpfCompiler.IR

structure NameScope where
  used : List String
  counters : List (String × Nat)
deriving Inhabited

namespace NameScope

def empty : NameScope := ⟨[], []⟩

def isUsed (s : NameScope) (name : String) : Bool := name.isEmpty || s.used.contains name

/-- The base with a number behind it. -/
def numbered (base : String) (n : Nat) : String := base ++ "." ++ toString n

/-- The first number above `n` that gives an unused name; `fuel` numbers are tried. -/
def seek (s : NameScope) (base : String) : Nat → Nat → Nat
  | 0, n => n + 1
  | fuel + 1, n => if s.isUsed (numbered base (n + 1)) then seek s base fuel (n + 1) else n + 1

def counter (s : NameScope) (base : String) : Nat := (s.counters.lookup base).getD 0

def setCounter (counters : List (String × Nat)) (base : String) (n : Nat) :
    List (String × Nat) :=
  (base, n) :: counters.filter fun (b, _) => b != base

/-- A name like `base` that is not in use, and the scope with it taken. -/
def fresh (s : NameScope) (base : String) : String × NameScope :=
  if s.isUsed base then
    let n := s.seek base (s.used.length + 1) (s.counter base)
    let name := numbered base n
    (name, ⟨name :: s.used, setCounter s.counters base n⟩)
  else (base, { s with used := base :: s.used })

/-- The scope with exactly this name taken, unless it is in use. -/
def claim? (s : NameScope) (name : String) : Option NameScope :=
  if s.isUsed name then none else some { s with used := name :: s.used }

end NameScope

end BpfCompiler.IR
