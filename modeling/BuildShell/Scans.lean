import BuildShell.Scan

namespace BuildShell

-- Several scans of one line, each of which advances on its own. A scan that has reached the end of
-- the line stays there.
structure Scans where
  line   : String
  active : List (Option Scan) := []

namespace Scans

def start (ss : Scans) : Nat × Scans :=
  (ss.active.length, { ss with active := ss.active ++ [some (.ofLine ss.line)] })

def next? (ss : Scans) (i : Nat) : Option Token × Scans :=
  match ss.active[i]?.join with
  | none   => (none, ss)
  | some s => (some s.next.fst, { ss with active := ss.active.set i s.next.snd })

end Scans

end BuildShell
