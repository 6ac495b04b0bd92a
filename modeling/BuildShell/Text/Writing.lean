import BuildShell.Index

namespace BuildShell.Text

def padLeft (width : Nat) (s : String) : String :=
  .ofList (s.toList.leftpad width ' ')

def padRight (width : Nat) (s : String) : String :=
  .ofList (s.toList.rightpad width ' ')

def repeated (s : String) (count : Int) : String :=
  if s = "" then "" else .join (.replicate count.toNat s)

theorem join_replicate_empty (n : Nat) : String.join (.replicate n "") = "" := by
  induction n
  case zero       => rfl
  case succ n ih => rw [List.replicate_succ, String.join_cons, ih]; rfl

theorem repeated_eq (s : String) (count : Int) :
    repeated s count = .join (.replicate count.toNat s) := by
  unfold repeated
  split
  case isTrue h => rw [h, join_replicate_empty]
  case isFalse  => rfl

inductive WriteFault
  | count  -- a text is repeated more often than a word can say
  | size   -- a text becomes longer than a word can say
  | memory
  | digits -- a number has more digits than may be written
deriving DecidableEq

-- The bounds that are set to what is written: how many digits a number may have, and how many
-- characters there is memory for.
structure Limits where
  digits? : Option Nat := some 4300
  memory? : Option Nat := none

namespace Limits

def unbounded : Limits where
  digits? := none

variable (m : Limits)

def repeatFault? (s : String) (count : Int) : Option WriteFault :=
  let size := s.length * count.toNat
  if !fitsWord count then
    some .count
  else if count ≤ 1 then
    none
  else if size > wordMax then
    some .size
  else if m.memory?.any (· < size) then
    some .memory
  else
    none

def digitsFault? (i : Int) : Option WriteFault :=
  if m.digits?.any (· < (Nat.toDigits 10 i.natAbs).length) then some .digits else none

end Limits

end BuildShell.Text
