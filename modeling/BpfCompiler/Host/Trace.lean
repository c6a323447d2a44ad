import BpfCompiler.Datum

/-!
# The trace pipe

A reader opens the pipe when it is first needed and hands out one event for each line.  How a line is
parsed is up to the reader: a parser gives six fields for a line, or something that no event can be made
from.
-/

namespace BpfCompiler.Host

/-- The fields of an event in the order in which a line gives them. -/
structure TraceEvent where
  timestamp : Datum
  comm : Datum
  pid : Datum
  cpu : Datum
  flags : Datum
  message : Datum

namespace TraceEvent

def ofFields? : List Datum → Option TraceEvent
  | [timestamp, comm, pid, cpu, flags, message] => some ⟨timestamp, comm, pid, cpu, flags, message⟩
  | _ => none

/-- The fields in the order in which an event is taken apart. -/
def toList (e : TraceEvent) : List Datum :=
  [e.comm, e.pid, e.cpu, e.flags, e.timestamp, e.message]

end TraceEvent

inductive TraceFault where
  | noPipe
  | closed
  | notAnEvent
deriving DecidableEq

/-- The class of the error that a fault is reported as. -/
def TraceFault.className : TraceFault → String
  | .noPipe => "FileNotFoundError"
  | .closed => "ValueError"
  | .notAnEvent => "TypeError"

/-- An open or closed pipe with the lines that are left. -/
structure Pipe where
  lines : List Text
  isOpen : Bool

/-- A reader: the lines of the pipe if it exists, the pipe if it was opened, and what the parser will give
for the next lines. -/
structure TraceReader where
  source : Option (List Text)
  pipe : Option Pipe
  parses : List Datum

namespace TraceReader

def defaultPath : String := "/sys/kernel/debug/tracing/trace_pipe"

/-- Puts a code point in front of the first line. -/
def consLine (p : CodePoint) : List Text → List Text
  | [] => [⟨[p]⟩]
  | line :: rest => ⟨p :: line.points⟩ :: rest

def lineFeed : CodePoint := CodePoint.ofChar '\n'

def isReturn (p : CodePoint) : Bool := p == CodePoint.ofChar '\r'

/-- The lines of a text, each with a line feed at its end; a carriage return, alone or before a line feed,
ends a line too. -/
def linesOf : List CodePoint → List Text
  | [] => []
  | p :: q :: rest =>
    if isReturn p && q == lineFeed then ⟨[lineFeed]⟩ :: linesOf rest
    else if isReturn p || p == lineFeed then ⟨[lineFeed]⟩ :: linesOf (q :: rest)
    else consLine p (linesOf (q :: rest))
  | [p] => if isReturn p then [⟨[lineFeed]⟩] else [⟨[p]⟩]

def ofText (content : Option Text) (parses : List Datum) : TraceReader :=
  ⟨content.map fun t => linesOf t.points, none, parses⟩

/-- Opens the pipe from its start, also when it is open. -/
def enter (r : TraceReader) : Except TraceFault TraceReader :=
  match r.source with
  | some lines => .ok { r with pipe := some ⟨lines, true⟩ }
  | none => .error .noPipe

/-- Closes the pipe if it was opened. -/
def exit (r : TraceReader) : TraceReader :=
  { r with pipe := r.pipe.map fun p => { p with isOpen := false } }

/-- What the parser gives for the next line. -/
def parse (r : TraceReader) : Datum × TraceReader :=
  match r.parses with
  | [] => (.null, r)
  | d :: rest => (d, { r with parses := rest })

/-- The fields that a parse result consists of, if it can be taken apart. -/
def fieldsOf? : Datum → Option (List Datum)
  | .list items => some items
  | .text t => some (t.points.map fun p => .text ⟨[p]⟩)
  | .dict items => some (items.map fun (k, _) => .text k)
  | _ => none

/-- The event of a parse result. -/
def eventOf (parsed : Datum) : Except TraceFault TraceEvent :=
  match (fieldsOf? parsed).bind TraceEvent.ofFields? with
  | some e => .ok e
  | none => .error .notAnEvent

/-- The pipe, opened if it was not opened before. -/
def opened (r : TraceReader) : Except TraceFault Pipe :=
  match r.pipe, r.source with
  | some p, _ => .ok p
  | none, some lines => .ok ⟨lines, true⟩
  | none, none => .error .noPipe

/-- The next event, or none at the end of the pipe, and the reader after it. -/
def next (r : TraceReader) : Except TraceFault (Option TraceEvent) × TraceReader :=
  match r.opened with
  | .error f => (.error f, r)
  | .ok p =>
    if !p.isOpen then (.error .closed, r)
    else
      match p.lines with
      | [] => (.ok none, { r with pipe := some p })
      | _ :: rest =>
        let (parsed, r) := { r with pipe := some { p with lines := rest } }.parse
        ((eventOf parsed).map some, r)

end TraceReader

end BpfCompiler.Host
