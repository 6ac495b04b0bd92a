import BuildShell.Command

namespace BuildShell

-- The nodes that a line consists of. The first two are of no particular kind.
inductive Node
  | plain     (span : Span)
  | leaf      (leaf : Leaf)
  | uri       (uri : Uri)
  | project   (id : Leaf)
  | config    (id : Leaf)
  | key       (id : Leaf)
  | intask    (id : Leaf)
  | scopedKey (key : ScopedKey)
  | command   (command : Command)

namespace Node

instance : BEq Node where
  beq
    | plain _,      plain _      => true
    | leaf l₁,      leaf l₂      => l₁ == l₂
    | uri u₁,       uri u₂       => u₁ == u₂
    | project l₁,   project l₂   => l₁ == l₂
    | config l₁,    config l₂    => l₁ == l₂
    | key l₁,       key l₂       => l₁ == l₂
    | intask l₁,    intask l₂    => l₁ == l₂
    | scopedKey k₁, scopedKey k₂ => k₁ == k₂
    | command c₁,   command c₂   => c₁ == c₂
    | _,            _            => false

def name : Node → String
  | plain _     => "ASTNode"
  | leaf _      => "Leaf"
  | uri _       => "Uri"
  | project _   => "ProjectId"
  | config _    => "Config"
  | key _       => "Key"
  | intask _    => "Intask"
  | scopedKey _ => "ScopedKey"
  | command _   => "Command"

def span : Node → Span
  | plain s                                          => s
  | leaf l | project l | config l | key l | intask l => l.span
  | uri u                                            => u.span
  | scopedKey k                                      => k.span
  | command c                                        => c.span

def text? : Node → Option String
  | leaf l | project l | config l | key l | intask l => l.text
  | uri u                                            => u.text
  | plain _ | scopedKey _ | command _                => none

def render? : Node → Option String
  | uri u       => u.render
  | scopedKey k => k.render
  | _           => none

def children : Node → List Node
  | scopedKey k =>
    (k.uri?.map uri).toList ++ (k.project?.map project).toList ++ (k.config?.map config).toList ++
    [key k.key] ++ (k.intask?.map intask).toList
  | command c =>
    match c.scopedKey? with
    | some k => [scopedKey k]
    | none   => (c.uri?.map uri).toList
  | _ => []

def height : Node → Nat
  | scopedKey _ => 1
  | command _   => 2
  | _           => 0

theorem height_lt_of_mem_children {n c : Node} (h : c ∈ n.children) : c.height < n.height := by
  cases n <;> simp only [children, List.not_mem_nil] at h
  case scopedKey k =>
    simp at h
    obtain ⟨_, _, rfl⟩ | ⟨_, _, rfl⟩ | ⟨_, _, rfl⟩ | rfl | ⟨_, _, rfl⟩ := h <;> simp [height]
  case command c =>
    split at h <;> simp at h
    case h_1 => simp [h, height]
    case h_2 =>
      obtain ⟨_, _, rfl⟩ := h
      simp [height]

def preorder (n : Node) : List Node :=
  n :: n.children.attach.flatMap fun ⟨c, _⟩ => c.preorder
termination_by n.height
decreasing_by exact height_lt_of_mem_children ‹_›

theorem preorder_eq (n : Node) : n.preorder = n :: n.children.flatMap preorder := by
  rw [preorder]
  simp [List.flatMap_subtype]

end Node

structure NodeSpan where
  kind : String
  span : Span
  text : String

def NodeSpan.ofNode (line : String) (n : Node) : NodeSpan :=
  ⟨n.name, n.span, n.span.slice line⟩

def Node.spans (n : Node) (line : String) : List NodeSpan :=
  n.preorder.map (.ofNode line)

def Command.spans (c : Command) : List NodeSpan :=
  (Node.command c).spans c.source

end BuildShell
