import BuildShell.Node

namespace BuildShell

-- What a visitor can handle: the nodes of one kind, or with `node` those of every kind that it has
-- no handler of its own for.
inductive Handler
  | node
  | command
  | config
  | intask
  | key
  | project
  | scopedKey
  | uri
deriving DecidableEq

namespace Handler

def all : List Handler :=
  [node, command, config, intask, key, project, scopedKey, uri]

abbrev Subject : Handler → Type
  | node                            => Node
  | command                         => Command
  | scopedKey                       => ScopedKey
  | uri                             => Uri
  | config | intask | key | project => Leaf

def asNode : (h : Handler) → h.Subject → Node
  | node,      n => n
  | command,   c => .command c
  | config,    l => .config l
  | intask,    l => .intask l
  | key,       l => .key l
  | project,   l => .project l
  | scopedKey, k => .scopedKey k
  | uri,       u => .uri u

end Handler

-- A visitor acts on nodes in a monad `m`, with a function for each handler that it provides. The
-- function also gets the visits of the parts of the node, which it makes or leaves out.
structure Visitor (m : Type → Type) (α : Type) where
  on? : (h : Handler) → Option (h.Subject → List (m (Option α)) → m α)

namespace Visitor

variable {m : Type → Type} {α : Type} [Monad m] (v : Visitor m α)

def own? : Node → Option (List (m (Option α)) → m α)
  | .plain _ | .leaf _ => none
  | .command c         => (v.on? .command).map (· c)
  | .config l          => (v.on? .config).map (· l)
  | .intask l          => (v.on? .intask).map (· l)
  | .key l             => (v.on? .key).map (· l)
  | .project l         => (v.on? .project).map (· l)
  | .scopedKey k       => (v.on? .scopedKey).map (· k)
  | .uri u             => (v.on? .uri).map (· u)

def visit (n : Node) : m (Option α) :=
  let parts := n.children.attach.map fun ⟨c, _⟩ => visit c
  match v.own? n <|> (v.on? .node).map (· n) with
  | none     => pure none
  | some act => some <$> act parts
termination_by n.height
decreasing_by exact Node.height_lt_of_mem_children ‹_›

theorem visit_eq (n : Node) :
    v.visit n =
      match v.own? n <|> (v.on? .node).map (· n) with
      | none     => pure none
      | some act => some <$> act (n.children.map v.visit) := by
  rw [visit]
  simp [List.map_subtype]

def walk (n : Node) : m PUnit := do
  discard (v.visit n)
  n.children.attach.forM fun ⟨c, _⟩ => walk c
termination_by n.height
decreasing_by exact Node.height_lt_of_mem_children ‹_›

theorem walk_eq [LawfulMonad m] (n : Node) :
    v.walk n = (do discard (v.visit n); n.children.forM v.walk) := by
  have h := List.forM_map (l := n.children.attach) (g := Subtype.val) (f := v.walk)
  rw [List.attach_map_subtype_val] at h
  simp only [List.forM_eq_forM, h]
  rw [walk]
  rfl

end Visitor

structure Visit where
  handler : Handler
  node    : Node

namespace Visitor

def note (h : Handler) (n : Node) : StateM (List Visit) Handler := do
  modify (· ++ [⟨h, n⟩])
  return h

def recording (provided : List Handler) : Visitor (StateM (List Visit)) Handler where
  on? h := if h ∈ provided then some fun s _ => note h (h.asNode s) else none

def collecting (line : String) : Visitor (StateM (List NodeSpan)) PUnit where
  on?
    | .node => some fun n _ => modify (· ++ [.ofNode line n])
    | _     => none

end Visitor

end BuildShell
