import BuildShell.Reading

namespace BuildShell

structure Cursor where
  line    : TokenLine
  pos     : Int           := 0
  phase   : Phase         := .start
  reason? : Option String := none
  column  : Int           := 0

namespace Cursor

def ofTokens (ts : List Token) : Cursor where
  line := .ofTokens ts

variable (c : Cursor)

def body : List Token :=
  c.line.body

def token (pos : Int) : Except Index.Fault Token :=
  if pos ≥ c.line.tokens.length then
    .ok c.line.stop
  else
    (Index.resolve c.line.tokens.length pos).map fun i => c.line.tokens.getD i c.line.stop

def current : Except Index.Fault Token :=
  c.token c.pos

def peek (offset : Int) : Except Index.Fault Token :=
  c.token (c.pos + offset)

def advance : Except Index.Fault (Token × Cursor) :=
  c.current.map fun t => (t, if t.kind = .eof then c else { c with pos := c.pos + 1 })

def check (kinds : List Kind) : Except Index.Fault Bool :=
  c.current.map fun t => kinds.contains t.kind

def enter (phase : Phase) : Cursor :=
  { c with phase }

def takeLeaf : Except Index.Fault (Leaf × Cursor) :=
  c.advance.map fun (t, c) => (.ofToken t, c)

def takeUri : Except Index.Fault (Option Uri × Cursor) := do
  let (brace, c) ← c.advance
  if !(← c.check [.uriBody]) then
    return (none, c)
  let (body, c) ← c.advance
  if body.malformed then
    return (some { text := body.text, span := ⟨brace.start, body.stop⟩, malformed := true }, c)
  if !(← c.check [.rightBrace]) then
    return (none, c)
  let (closing, c) ← c.advance
  return (some { text := body.text, span := ⟨brace.start, closing.stop⟩ }, c)

-- Keeps the line as it is. The phase and the reason are set in any case, but without a current
-- token there is no column, no command, and no record.
def giveUp (uri? : Option Uri) (reason : String) : Logged (Except Index.Fault Command × Cursor) :=
  let c := { c with phase := .unstructured, reason? := some reason }
  match c.current with
  | .error f => ⟨(.error f, c), []⟩
  | .ok t    =>
    ⟨(.ok (c.line.unstructured uri?), { c with column := t.column }), [⟨t.column, reason⟩]⟩

def parse : Command × Cursor :=
  let r := c.line.read
  let c := {
    line    := c.line
    pos     := c.line.body.length - r.left.length
    phase   := r.phase
    reason? := r.fallback?.map (·.reason.text)
    column  := r.fallback?.elim 0 (·.column) }
  (r.command, c)

end Cursor

end BuildShell
