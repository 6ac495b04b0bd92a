import BuildShell.Proofs.Cursor.Stepwise

namespace BuildShell.Cursor

open Index

-- A computation with a cursor that keeps an account of the phases that it enters.
abbrev Traced (α : Type) : Type :=
  StateT (Cursor × List Phase) (Except Fault) α

namespace Traced

variable {α β : Type}

def look (f : Cursor → Except Fault α) : Traced α :=
  fun (c, ps) => (f c).map (·, c, ps)

def move (f : Cursor → Except Fault (α × Cursor)) : Traced α :=
  fun (c, ps) => (f c).map fun (a, c) => (a, c, ps)

def enter (phase : Phase) : Traced PUnit :=
  fun (c, ps) => .ok (⟨⟩, c.enter phase, ps ++ [phase])

def takeBefore (mark : Kind) (phase : Phase) : Traced (Option Leaf) := do
  let found ← look (·.check [.identifier])
  if found then
    let next ← look (·.peek 1)
    if next.kind = mark then
      enter phase
      let leaf ← move takeLeaf
      let _ ← move advance
      return some leaf
    else
      return none
  else
    return none

def takeAfter (mark : Kind) (phase : Phase) : Traced (Option Leaf) := do
  let found ← look (·.check [mark])
  if found then
    let next ← look (·.peek 1)
    if next.kind = .identifier then
      enter phase
      let _ ← move advance
      let leaf ← move takeLeaf
      return some leaf
    else
      return none
  else
    return none

-- The cursor itself also enters the last phase, where it makes the command.

def fail (uri? : Option Uri) (reason : Reason) : Traced Command := do
  enter .unstructured
  move (·.fail uri? reason)

def finish (leading : List Token) (start : Int) (uri? : Option Uri)
    (project? config? : Option Leaf) (key : Leaf) (intask? : Option Leaf) : Traced Command := do
  enter .done
  move (·.finish leading start uri? project? config? key intask?)

def takeKey (leading : List Token) (start : Int) (uri? : Option Uri) : Traced Command := do
  let project? ← takeBefore .slash .project
  let config? ← takeBefore .colon .config
  enter .requireKey
  let found ← look (·.check [.identifier])
  if found then
    let key ← move takeLeaf
    let intask? ← takeAfter .doubleColon .intask
    finish leading start uri? project? config? key intask?
  else
    fail uri? .keyExpected

def parse : Traced Command := do
  let leading ← move takeBlanks
  let first ← look current
  let found ← look (·.check [.leftBrace])
  if found then
    enter .uri
    let uri? ← move takeUri
    match uri? with
    | none   => fail none .uriExpected
    | some u =>
      if u.malformed then
        fail (some u) .uriUnterminated
      else
        takeKey leading first.start (some u)
  else
    takeKey leading first.start none

def forget (x : Traced α) (c : Cursor) (ps : List Phase) : Except Fault (α × Cursor) :=
  (x.run (c, ps)).map fun r => (r.fst, r.snd.fst)

variable {x : Traced α} {g : α → Traced β} {f : Cursor → Except Fault (α × Cursor)} {c : Cursor}
  {ps : List Phase}

section

variable {size : Nat} {a : α} {c' : Cursor} {r : β × Cursor × List Phase}

theorem yields_pure (size : Nat) (a : α) (c : Cursor) (ps : List Phase) :
    Yields size ((pure a : Traced α).run (c, ps)) (a, c, ps) :=
  yields_ok _ _

theorem yields_look_bind {f : Cursor → Except Fault α} (h : Yields size (f c) a)
    (hg : Yields size ((g a).run (c, ps)) r) : Yields size ((look f >>= g).run (c, ps)) r :=
  (h.map _).bind hg

theorem yields_move_bind (h : Yields size (f c) (a, c'))
    (hg : Yields size ((g a).run (c', ps)) r) : Yields size ((move f >>= g).run (c, ps)) r :=
  (h.map _).bind hg

theorem yields_enter_bind {phase : Phase} {g : PUnit → Traced β}
    (hg : Yields size ((g ⟨⟩).run (c.enter phase, ps ++ [phase])) r) :
    Yields size ((enter phase >>= g).run (c, ps)) r :=
  hg

theorem yields_bind {s : Cursor × List Phase} (h : Yields size (x.run (c, ps)) (a, s))
    (hg : Yields size ((g a).run s) r) : Yields size ((x >>= g).run (c, ps)) r :=
  h.bind hg

end

theorem forget_pure (a : α) : forget (pure a) c ps = pure (a, c) :=
  rfl

theorem forget_look_bind (f : Cursor → Except Fault α) :
    forget (look f >>= g) c ps = f c >>= fun a => forget (g a) c ps := by
  change Except.map _ ((f c).map _ >>= _) = _
  cases f c <;> rfl

theorem forget_move (f : Cursor → Except Fault (α × Cursor)) : forget (move f) c ps = f c := by
  change Except.map _ ((f c).map _) = _
  cases f c <;> rfl

theorem forget_move_bind (f : Cursor → Except Fault (α × Cursor)) :
    forget (move f >>= g) c ps = f c >>= fun r => forget (g r.fst) r.snd ps := by
  change Except.map _ ((f c).map _ >>= _) = _
  cases f c <;> rfl

theorem forget_enter_bind (phase : Phase) (g : PUnit → Traced β) :
    forget (enter phase >>= g) c ps = forget (g ⟨⟩) (c.enter phase) (ps ++ [phase]) :=
  rfl

theorem forget_ite (p : Prop) [Decidable p] (x y : Traced α) :
    forget (if p then x else y) c ps = if p then forget x c ps else forget y c ps :=
  apply_ite (forget · c ps) p x y

theorem forget_bind {h : α × Cursor → Except Fault (β × Cursor)}
    (hx : ∀ c ps, forget x c ps = f c) (hg : ∀ a c ps, forget (g a) c ps = h (a, c)) :
    forget (x >>= g) c ps = f c >>= h := by
  rw [← hx c ps]
  change Except.map _ (x.run (c, ps) >>= _) = Except.map _ (x.run (c, ps)) >>= _
  cases x.run (c, ps)
  case error => rfl
  case ok r  => exact hg r.fst r.snd.fst r.snd.snd

theorem forget_takeBefore (mark : Kind) (phase : Phase) (c : Cursor) (ps : List Phase) :
    forget (takeBefore mark phase) c ps = c.takeBefore mark phase := by
  simp only [takeBefore, forget_look_bind, forget_move_bind, forget_enter_bind, forget_ite,
    forget_pure]
  rfl

theorem forget_takeAfter (mark : Kind) (phase : Phase) (c : Cursor) (ps : List Phase) :
    forget (takeAfter mark phase) c ps = c.takeAfter mark phase := by
  simp only [takeAfter, forget_look_bind, forget_move_bind, forget_enter_bind, forget_ite,
    forget_pure]
  rfl

theorem forget_fail (uri? : Option Uri) (reason : Reason) (c : Cursor) (ps : List Phase) :
    forget (fail uri? reason) c ps = c.fail uri? reason := by
  rw [fail, forget_enter_bind, forget_move]
  rfl

theorem forget_finish (leading : List Token) (start : Int) (uri? : Option Uri)
    (project? config? : Option Leaf) (key : Leaf) (intask? : Option Leaf) (c : Cursor)
    (ps : List Phase) :
    forget (finish leading start uri? project? config? key intask?) c ps =
    c.finish leading start uri? project? config? key intask? := by
  rw [finish, forget_enter_bind, forget_move]
  rfl

theorem forget_takeKey (leading : List Token) (start : Int) (uri? : Option Uri) (c : Cursor)
    (ps : List Phase) :
    forget (takeKey leading start uri?) c ps = c.takeKey leading start uri? := by
  refine forget_bind (forget_takeBefore _ _) fun project? c ps => ?_
  refine forget_bind (forget_takeBefore _ _) fun config? c ps => ?_
  have hi (key : Leaf) (c : Cursor) (ps : List Phase) :
      forget (takeAfter .doubleColon .intask >>=
        finish leading start uri? project? config? key) c ps =
      c.takeAfter .doubleColon .intask >>= fun r =>
        r.snd.finish leading start uri? project? config? key r.fst :=
    forget_bind (forget_takeAfter _ _) fun _ _ _ => forget_finish ..
  simp only [forget_enter_bind, forget_look_bind, forget_ite, forget_move_bind, forget_fail, hi]

theorem forget_parse (c : Cursor) : forget parse { line := c.line } [] = c.parseStepwise := by
  rw [parse, parseStepwise, forget_move_bind]
  refine bind_congr fun (leading, c) => ?_
  rw [forget_look_bind]
  refine bind_congr fun first => ?_
  rw [forget_look_bind]
  refine bind_congr fun found => ?_
  rw [forget_ite, forget_enter_bind, forget_move_bind, forget_takeKey]
  refine if_congr Iff.rfl (bind_congr fun (uri?, c) => ?_) rfl
  cases uri?
  case none   => exact forget_fail ..
  case some u => simp only [forget_ite, forget_fail, forget_takeKey]

end Traced

end BuildShell.Cursor
