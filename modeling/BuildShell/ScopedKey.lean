import BuildShell.Token

namespace BuildShell

structure Leaf where
  text : String := ""
  span : Span   := .origin

-- Nodes are compared by what they say. Where they stand in a line does not count.
instance : BEq Leaf where
  beq l₁ l₂ := l₁.text == l₂.text

def Leaf.ofToken (t : Token) : Leaf :=
  ⟨t.text, t.span⟩

-- The address of a build, without the braces around it. It is malformed if the closing one is
-- missing.
structure Uri extends Leaf where
  malformed : Bool := false

namespace Uri

instance : BEq Uri where
  beq u₁ u₂ := u₁.toLeaf == u₂.toLeaf && u₁.malformed == u₂.malformed

def render (u : Uri) : String :=
  "\x7b" ++ u.text ++ if u.malformed then "" else "\x7d"

end Uri

-- The address of a setting or a task: `{uri}project/config:key::intask`, where only the key has to
-- be there.
structure ScopedKey where
  uri?     : Option Uri  := none
  project? : Option Leaf := none
  config?  : Option Leaf := none
  key      : Leaf
  intask?  : Option Leaf := none
  span     : Span        := .origin

namespace ScopedKey

instance : BEq ScopedKey where
  beq k₁ k₂ :=
    k₁.key == k₂.key && k₁.uri? == k₂.uri? && k₁.project? == k₂.project? &&
    k₁.config? == k₂.config? && k₁.intask? == k₂.intask?

def render (k : ScopedKey) : String :=
  k.uri?.elim "" (·.render) ++ k.project?.elim "" (·.text ++ "/") ++
  k.config?.elim "" (·.text ++ ":") ++ k.key.text ++ k.intask?.elim "" ("::" ++ ·.text)

end ScopedKey

end BuildShell
