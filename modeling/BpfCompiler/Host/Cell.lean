/-!
# Machine values in user space

Stand-ins for the functions that only the kernel has, so that a program can be imported there: values of a
fixed width, and reading through a pointer to a 64-bit cell.
-/

namespace BpfCompiler.Host

/-- An integer of a fixed width. -/
structure Cell where
  bytes : Nat
  value : Nat
deriving DecidableEq

namespace Cell

def ktime : Cell := ⟨8, 0⟩

def pid : Cell := ⟨4, 0⟩

def xdpDrop : Cell := ⟨8, 1⟩

def xdpPass : Cell := ⟨8, 2⟩

def ofName? : String → Option Cell
  | "ktime" => some ktime
  | "pid" => some pid
  | "XDP_DROP" => some xdpDrop
  | "XDP_PASS" => some xdpPass
  | _ => none

end Cell

/-- A pointer to a 64-bit cell: null, or the number that was written there. -/
inductive Pointer where
  | null
  | to (written : Int)

/-- What is read through a pointer, without a sign. -/
def Pointer.deref? : Pointer → Option Nat
  | .null => none
  | .to written => some (written.emod 0x10000000000000000).toNat

end BpfCompiler.Host
