import BuildShell.Cursor
import BuildShell.Proofs.Index
import Mathlib.Data.List.Basic

namespace BuildShell.Cursor

open Index

-- A line can also be read with the single operations of a cursor, each of which looks tokens up by
-- their position. Then a phase is entered as soon as it is sure that its part is there.

variable (c : Cursor)

def element (pos : Int) : Except Fault Token :=
  (resolve c.line.tokens.length pos).map fun i => c.line.tokens.getD i c.line.stop

variable {c}

theorem lt_length_of_current {t : Token} (h : c.current = .ok t) (hk : t.kind ≠ .eof) :
    c.pos < c.line.tokens.length := by
  by_contra hp
  have ht : c.current = .ok c.line.stop := if_pos (Int.not_lt.mp hp)
  obtain rfl : c.line.stop = t := Except.ok.inj (ht.symm.trans h)
  exact hk c.line.stop_eof

theorem advance_lt {c' : Cursor} {t : Token} (h : c.advance = .ok (t, c'))
    (hk : t.kind = .whitespace) :
    (c'.line.tokens.length - c'.pos).toNat < (c.line.tokens.length - c.pos).toNat := by
  have hn : t.kind ≠ .eof := by simp [hk]
  unfold advance at h
  cases hc : c.current <;> rw [hc] at h <;> cases h
  case ok.refl =>
    have hp := lt_length_of_current hc hn
    simp only [if_neg hn]
    omega

variable (c)

def takeBlanks (c : Cursor) : Except Fault (List Token × Cursor) :=
  match _ : c.advance with
  | .error f    => .error f
  | .ok (t, c') =>
    if _ : t.kind = .whitespace then
      c'.takeBlanks.map fun (ts, c) => (t :: ts, c)
    else
      .ok ([], c)
termination_by (c.line.tokens.length - c.pos).toNat
decreasing_by exact advance_lt ‹_› ‹_›

def takeBefore (mark : Kind) (phase : Phase) : Except Fault (Option Leaf × Cursor) := do
  let found ← c.check [.identifier]
  if found then
    let next ← c.peek 1
    if next.kind = mark then
      let (leaf, c) ← (c.enter phase).takeLeaf
      let (_, c) ← c.advance
      return (some leaf, c)
    else
      return (none, c)
  else
    return (none, c)

def takeAfter (mark : Kind) (phase : Phase) : Except Fault (Option Leaf × Cursor) := do
  let found ← c.check [mark]
  if found then
    let next ← c.peek 1
    if next.kind = .identifier then
      let (_, c) ← (c.enter phase).advance
      let (leaf, c) ← c.takeLeaf
      return (some leaf, c)
    else
      return (none, c)
  else
    return (none, c)

def fail (uri? : Option Uri) (reason : Reason) : Except Fault (Command × Cursor) :=
  let (command, c) := (c.giveUp uri? reason.text).value
  command.map (·, c)

def finish (leading : List Token) (start : Int) (uri? : Option Uri)
    (project? config? : Option Leaf) (key : Leaf) (intask? : Option Leaf) :
    Except Fault (Command × Cursor) := do
  let last ← c.element (c.pos - 1)
  let span := ⟨start, last.stop⟩
  let command := {
    form       := .scopedKey
    scopedKey? := some { uri?, project?, config?, key, intask?, span }
    leading    := leading
    trailing   := c.body.drop c.pos.toNat
    tokens     := c.body
    span       := c.line.span }
  return (command, c.enter .done)

def takeKey (leading : List Token) (start : Int) (uri? : Option Uri) :
    Except Fault (Command × Cursor) := do
  let (project?, c) ← c.takeBefore .slash .project
  let (config?, c) ← c.takeBefore .colon .config
  let c := c.enter .requireKey
  let found ← c.check [.identifier]
  if found then
    let (key, c) ← c.takeLeaf
    let (intask?, c) ← c.takeAfter .doubleColon .intask
    c.finish leading start uri? project? config? key intask?
  else
    c.fail uri? .keyExpected

def parseStepwise : Except Fault (Command × Cursor) := do
  let (leading, c) ← takeBlanks { line := c.line }
  let first ← c.current
  let found ← c.check [.leftBrace]
  if found then
    let (uri?, c) ← (c.enter .uri).takeUri
    match uri? with
    | none   => c.fail none .uriExpected
    | some u =>
      if u.malformed then
        c.fail (some u) .uriUnterminated
      else
        c.takeKey leading first.start (some u)
  else
    c.takeKey leading first.start none

end BuildShell.Cursor
