import BuildShell.Text.Writing
import BuildShell.Visitor

namespace BuildShell

open Text

def Span.mark (s : Span) : String :=
  " @" ++ toString s.start ++ ".." ++ toString s.stop

structure OutlineLine where
  depth : Int
  label : String
  span? : Option Span

def OutlineLine.text (indent : String) (l : OutlineLine) : String :=
  repeated indent l.depth ++ l.label ++ l.span?.elim "" (·.mark)

structure Outline where
  depth : Int              := 0
  lines : List OutlineLine := []

def Outline.texts (o : Outline) (indent : String) : List String :=
  o.lines.map (·.text indent)

-- Printing adds to an outline. Where it breaks off, the outline stays as it is at that point.
abbrev Printing := ExceptT WriteFault (StateM Outline)

structure Printer where
  indent    : String        := "  "
  printable : Char → Bool   := isPrintable
  limits    : Limits        := {}

namespace Printer

variable (p : Printer)

def placeFault? (s : Span) : Option WriteFault :=
  p.limits.digitsFault? s.start <|> p.limits.digitsFault? s.stop

-- A line is put together from left to right. The first part of it that cannot be written tells why.
def fault? (l : OutlineLine) : Option WriteFault :=
  p.limits.repeatFault? p.indent l.depth <|> l.span?.bind p.placeFault?

def write (l : OutlineLine) : Printing PUnit :=
  match p.fault? l with
  | none   => modify fun o => { o with lines := o.lines ++ [l] }
  | some f => throw f

def emit (n : Node) (label : String) : Printing PUnit := do
  p.write ⟨(← get).depth, label, n.span⟩

def descend (parts : List (Printing (Option PUnit))) : Printing PUnit := do
  modify fun o => { o with depth := o.depth + 1 }
  parts.forM discard
  modify fun o => { o with depth := o.depth - 1 }

def visitor : Visitor Printing PUnit where
  on?
    | .command   => some fun c parts => do
      p.emit (.command c) ("Command [" ++ c.form.name ++ "]")
      descend parts
      unless c.freeText = "" do
        p.write ⟨(← get).depth + 1, "text " ++ quoted c.freeText p.printable, none⟩
    | .scopedKey => some fun k parts => do
      p.emit (.scopedKey k) ("ScopedKey " ++ quoted k.render p.printable)
      descend parts
    | .uri       => some fun u _ =>
      let suffix := if u.malformed then " (malformed)" else ""
      p.emit (.uri u) ("Uri " ++ quoted u.text p.printable ++ suffix)
    | .node      => some fun n _ =>
      p.emit n (n.name ++ " " ++ quoted (n.text?.getD "") p.printable)
    | _          => none

def print (n : Node) : Printing PUnit :=
  discard (p.visitor.visit n)

end Printer

-- The whole tree of a command that has been read from a line. No line is so long that the places in
-- it could not be written, and so nothing is a bound to this.
def Command.outline (c : Command) (indent : String := "  ")
    (printable : Char → Bool := isPrintable) : String :=
  let p : Printer := { indent, printable, limits := .unbounded }
  "\n".intercalate (((p.print (.command c)).run.run {}).snd.texts indent)

end BuildShell
