/-!
# Programs for measuring

Source texts of any size, which exercise the compiler evenly.  `probes` has every kind of statement that
can be lowered; the others each press on one part.
-/

namespace BpfCompiler.Workload.Source

def chunk (lines : List String) : String := String.join (lines.map fun l => l ++ "\n") ++ "\n"

def indented (lines : List String) : List String := lines.map fun l => "    " ++ l

def marked (marks : List String) (head : String) (body : List String) : String :=
  chunk (marks.map (fun m => "@" ++ m) ++ ["def " ++ head ++ ":"] ++ indented body)

def imports : String :=
  chunk ["from ctypes import c_void_p, c_int64, c_int32, c_uint64, c_uint32"]

def license : String := marked ["bpf", "bpfglobal"] "LICENSE() -> str" ["return \"GPL\""]

/-- A print of a text, which may have holes. -/
def printOf (text : String) : String := "print(\"" ++ text ++ "\")"

def printHoles (text : String) : String := "print(f\"" ++ text ++ "\")"

/-- A branch whose suite prints one text. -/
def printIf (test text : String) : List String := ["if " ++ test ++ ":", "    " ++ printOf text]

/-- The body of a probe that uses the given map. -/
def probeBody (map : String) : List String :=
  ["a = c_int64(1)", "b = c_int32(2)", "u = c_uint32(3)", "k = c_uint64(7)", "flag = True",
   "ts = ktime()", "pd = pid()", "s = a + ts", "d = s - a", "m = a * d", "q = m / a", "r = a % d",
   "ls = a << 1", "rs = a >> 1", "bo = a | d", "bx = a ^ d", "ba = a & d", "fd = a // 2",
   map ++ "().update(k, ts)", map ++ "().update(5, 6, 0)", map ++ "().update(k, ts, a)",
   "v = " ++ map ++ "().lookup(k)", map ++ "().delete(k)", map ++ "().delete(9)", "dv = deref(ts)",
   printOf "hello world", printHoles "ts=\x7bts\x7d pid=\x7bpd\x7d a=\x7ba\x7d",
   printHoles "small=\x7bb\x7d"] ++
  printIf "flag" "flag on" ++ printIf "a == ts" "eq" ++ ["else:", "    " ++ printOf "neq"] ++
  printIf "a != ts" "ne" ++ printIf "a < ts" "lt" ++ printIf "a <= ts" "le" ++
  printIf "a > ts" "gt" ++ printIf "a >= ts" "ge" ++ printIf "b < a" "bw" ++ printIf "a > b" "bw2" ++
  printIf "True" "ct" ++ printIf "1" "ci" ++ printIf "v" "have" ++
  ["if a:", "    a = 5", "return c_int64(0)"]

def probe (label : String) (i : Nat) : String :=
  marked ["bpf", "section(\"tracepoint/syscalls/sys_enter_x" ++ toString i ++ "\")"]
    ("prog" ++ label ++ "_" ++ toString i ++ "(ctx: c_void_p) -> c_int64") (probeBody ("last" ++ label))

def numbered (n : Nat) (f : Nat → String) : String := String.join ((List.range n).map f)

/-- Three maps, `n` probes and a few small functions, all with the label in their names. -/
def probes (label : String) (n : Nat) : String :=
  imports ++
  marked ["bpf", "map"] ("last" ++ label ++ "()")
    ["return HashMap(key=c_uint64, value=c_uint64, max_entries=1024)"] ++
  marked ["bpf", "map"] ("evts" ++ label ++ "()")
    ["return PerfEventArray(key_size=c_int32, value_size=c_int32)"] ++
  marked ["bpf", "map"] ("other" ++ label ++ "()") ["return HashMap(c_uint64, c_uint64, 16)"] ++
  numbered n (probe label) ++
  marked ["bpf"] ("helperfn" ++ label ++ "() -> c_int64") ["return c_int64(0)"] ++
  marked ["bpf", "section(\"xdp\")"] ("xdp_pass" ++ label ++ "(ctx: c_void_p) -> c_int64")
    ["return XDP_PASS"] ++
  marked ["bpf", "section(\"xdp\")"] ("xdp_drop" ++ label ++ "(ctx: c_void_p) -> c_int64")
    ["return XDP_DROP"] ++
  marked ["bpf", "section(\"kprobe/foo\")"] ("noret" ++ label ++ "(ctx: c_void_p) -> c_int32")
    [printOf "noret"] ++
  license

/-- `n` maps, and one of a kind that is not known. -/
def maps (n : Nat) : String :=
  numbered n (fun i => marked ["bpf", "map"] ("m" ++ toString i ++ "()")
    ["return HashMap(key=c_uint64, value=c_uint64, max_entries=" ++ toString (i + 1) ++ ")"]) ++
  marked ["bpf", "map"] "weird()" ["return LruMap(c_uint64, c_uint64, 8)"]

/-- One map, and `n` functions that call every helper and print three texts. -/
def helperCalls (n : Nat) : String :=
  marked ["bpf", "map"] "table()" ["return HashMap(c_uint64, c_uint64, 64)"] ++
  numbered n fun i => marked ["bpf"] ("call_" ++ toString i ++ "(ctx: c_void_p) -> c_int64")
    ["k = c_uint64(1)", "t = ktime()", "p = pid()", "table().update(k, t)", "v = table().lookup(k)",
     "table().delete(k)", printOf "first", printHoles "t=\x7bt\x7d", printHoles "p=\x7bp\x7d t=\x7bt\x7d",
     "return c_int64(0)"]

/-- `n` functions of arithmetic and branches. -/
def arithmetic (n : Nat) : String :=
  numbered n fun i => marked ["bpf"] ("bc_" ++ toString i ++ "(ctx: c_void_p) -> c_int64")
    ["a = 7", "b = 3", "x = a + b", "x = x * a", "x = x - b", "if x > a:", "    x = x % b",
     "if a == b:", "    x = a // b", "else:", "    x = a ^ b", "return c_int64(0)"]

/-- `n` definitions that return in five different ways. -/
def returns (n : Nat) : String :=
  numbered n fun i =>
    let head := "r_" ++ toString i ++ "(ctx)"
    match i % 5 with
    | 0 => marked ["bpf", "bpfglobal"] head ["pass"]
    | 1 => marked ["bpf", "section(\"tp/x" ++ toString i ++ "\")"] (head ++ " -> c_int64")
        ["return c_int64(0)"]
    | 2 => marked ["bpf"] head ["return XDP_PASS"]
    | 3 => marked ["bpf"] head ["return 0"]
    | _ => marked ["bpf"] head ["return"]

/-- `n` programs without a licence. -/
def unlicensed (n : Nat) : String :=
  numbered n fun i => marked ["bpf", "section(\"tp/x" ++ toString i ++ "\")"]
    ("extra_" ++ toString i ++ "(ctx: c_void_p) -> c_int64") ["return c_int64(0)"]

/-- A licence, and `n` programs beside it. -/
def licensed (n : Nat) : String := license ++ unlicensed n

end BpfCompiler.Workload.Source
