namespace BuildShell

-- What is being read. The phases of a line are gone through in this order, where all but the first
-- one and `requireKey` can be left out, and the last one is either `done` or `unstructured`.
inductive Phase
  | start
  | uri
  | project
  | config
  | requireKey
  | intask
  | done
  | unstructured
deriving DecidableEq

namespace Phase

def name : Phase → String
  | start        => "START"
  | uri          => "URI"
  | project      => "PROJECT"
  | config       => "CONFIG"
  | requireKey   => "REQUIRE_KEY"
  | intask       => "INTASK"
  | done         => "DONE"
  | unstructured => "OPAQUE"

def all : List Phase :=
  [start, uri, project, config, requireKey, intask, done, unstructured]

def ofName? (name : String) : Option Phase :=
  all.find? (·.name = name)

end Phase

end BuildShell
