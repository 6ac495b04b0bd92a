namespace BuildShell

-- Positions and counts are integers, but those that a sequence is looked up or made with have to
-- fit into a signed word of 64 bits.
def wordMin : Int :=
  -0x8000000000000000

def wordMax : Int :=
  0x7FFFFFFFFFFFFFFF

def fitsWord (i : Int) : Bool :=
  wordMin ≤ i ∧ i ≤ wordMax

namespace Index

inductive Fault
  | outside
  | tooFar
deriving DecidableEq

def resolve (size : Nat) (pos : Int) : Except Fault Nat :=
  let i := if pos < 0 then size + pos else pos
  if !fitsWord pos then
    .error .tooFar
  else if 0 ≤ i ∧ i < size then
    .ok i.toNat
  else
    .error .outside

end Index

end BuildShell
