import BuildShell.Command
import BuildShell.Fallback
import BuildShell.Phase
import BuildShell.TokenLine

namespace BuildShell

structure Reading where
  command   : Command
  entered   : List Phase
  left      : List Token
  fallback? : Option Fallback := none
  log       : List Record     := []

namespace Reading

variable (r : Reading)

def phase : Phase :=
  r.entered.getLastD .start

def check : Except Fallback Command :=
  match r.fallback? with
  | none   => .ok r.command
  | some f => .error f

def logged : Logged Reading :=
  ⟨r, r.log⟩

end Reading

-- The URI that an opening brace begins. A body that is not closed ends the URI, but any other token
-- in the place of the body or of the closing brace means that there is no URI.
def Uri.read (brace : Token) : List Token → Option Uri × List Token
  | []         => (none, [])
  | body :: ts =>
    if body.kind ≠ .uriBody then
      (none, body :: ts)
    else if body.malformed then
      (some { text := body.text, span := ⟨brace.start, body.stop⟩, malformed := true }, ts)
    else
      match ts with
      | []            => (none, [])
      | closing :: ts =>
        if closing.kind = .rightBrace then
          (some { text := body.text, span := ⟨brace.start, closing.stop⟩ }, ts)
        else
          (none, closing :: ts)

namespace Leaf

def read : List Token → Option Leaf × List Token
  | []      => (none, [])
  | t :: ts => if t.kind = .identifier then (some (.ofToken t), ts) else (none, t :: ts)

def readBefore (mark : Kind) : List Token → Option Leaf × List Token
  | t :: m :: ts =>
    if t.kind = .identifier ∧ m.kind = mark then (some (.ofToken t), ts) else (none, t :: m :: ts)
  | ts => (none, ts)

def readAfter (mark : Kind) : List Token → Option Leaf × List Token
  | m :: t :: ts =>
    if m.kind = mark ∧ t.kind = .identifier then (some (.ofToken t), ts) else (none, m :: t :: ts)
  | ts => (none, ts)

end Leaf

namespace TokenLine

variable (l : TokenLine)

def span : Span :=
  ⟨0, l.stop.start⟩

def unstructured (uri? : Option Uri) : Command where
  form     := .unstructured
  uri?     := uri?
  trailing := l.body
  tokens   := l.body
  span     := l.span

def giveUp (entered : List Phase) (uri? : Option Uri) (reason : Reason) (left : List Token) :
    Reading :=
  let f : Fallback := ⟨reason, (l.front left).column⟩
  { command   := l.unstructured uri?
    entered   := entered ++ [.unstructured]
    left      := left
    fallback? := some f
    log       := [f.record] }

-- The scoped key that comes after the leading whitespace and the URI. An identifier is the project
-- if a slash follows, the configuration if a colon does, and else the key.
def readKey (leading : List Token) (start : Int) (uri? : Option Uri) (ts : List Token) : Reading :=
  let (project?, ts) := Leaf.readBefore .slash ts
  let (config?, ts)  := Leaf.readBefore .colon ts
  let (key?, ts)     := Leaf.read ts
  let entered :=
    (uri?.map fun _ => .uri).toList ++ (project?.map fun _ => .project).toList ++
    (config?.map fun _ => .config).toList ++ [.requireKey]
  match key? with
  | none     => l.giveUp entered uri? .keyExpected ts
  | some key =>
    let (intask?, ts) := Leaf.readAfter .doubleColon ts
    let span := ⟨start, (intask?.getD key).span.stop⟩
    { command := {
        form       := .scopedKey
        scopedKey? := some { uri?, project?, config?, key, intask?, span }
        leading    := leading
        trailing   := ts
        tokens     := l.body
        span       := l.span }
      entered := entered ++ (intask?.map fun _ => .intask).toList ++ [.done]
      left    := ts }

def read : Reading :=
  let leading := l.body.takeWhile (·.kind = .whitespace)
  let ts      := l.body.dropWhile (·.kind = .whitespace)
  let start   := (l.front ts).start
  match ts with
  | []      => l.readKey leading start none []
  | t :: us =>
    if t.kind = .leftBrace then
      match Uri.read t us with
      | (none, left)   => l.giveUp [.uri] none .uriExpected left
      | (some u, left) =>
        if u.malformed then
          l.giveUp [.uri] (some u) .uriUnterminated left
        else
          l.readKey leading start (some u) left
    else
      l.readKey leading start none ts

end TokenLine

def Reading.ofText (text : String) : Reading :=
  (TokenLine.ofText text).read

namespace Command

def ofText (text : String) : Command :=
  (Reading.ofText text).command

def check (text : String) : Except Fallback Command :=
  (Reading.ofText text).check

end Command

end BuildShell
