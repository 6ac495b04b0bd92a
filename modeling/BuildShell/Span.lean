namespace BuildShell

-- A half-open range of character positions in a line. The bounds are integers, since tokens and
-- nodes can be built at any place, also at one that no line has.
structure Span where
  start : Int
  stop  : Int
deriving DecidableEq

namespace Span

def origin : Span :=
  ⟨0, 0⟩

def place (size : Nat) (bound : Int) : Nat :=
  min size (if bound < 0 then size + bound else bound).toNat

def slice (s : Span) (text : String) : String :=
  let cs := text.toList
  .ofList (cs.take (place cs.length s.stop) |>.drop (place cs.length s.start))

end Span

end BuildShell
