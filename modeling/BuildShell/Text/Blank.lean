namespace BuildShell.Text

-- Whether a number lies in one of several closed intervals. The intervals are listed in ascending
-- order, so the search ends at the first one that begins above the number.
def inRanges : List (Nat × Nat) → Nat → Bool
  | [], _               => false
  | (lo, hi) :: rest, n => if n < lo then false else n ≤ hi || inRanges rest n

-- The blanks: the characters of Unicode's white space, and the four separators of ASCII
-- (U+001C to U+001F) beside them.
def blankRanges : List (Nat × Nat) := [
  (0x09, 0x0D), (0x1C, 0x20), (0x85, 0x85), (0xA0, 0xA0), (0x1680, 0x1680), (0x2000, 0x200A),
  (0x2028, 0x2029), (0x202F, 0x202F), (0x205F, 0x205F), (0x3000, 0x3000)]

def isBlank (c : Char) : Bool :=
  inRanges blankRanges c.toNat

def trim (s : String) : String :=
  .ofList (s.toList.dropWhile isBlank |>.reverse.dropWhile isBlank |>.reverse)

def runs : List Char → List (List Char)
  | []      => []
  | c :: cs =>
    if isBlank c then
      runs cs
    else
      (c :: cs.takeWhile (!isBlank ·)) :: runs (cs.dropWhile (!isBlank ·))
termination_by cs => cs.length
decreasing_by
  · simp
  · exact Nat.lt_succ_of_le (List.dropWhile_suffix _).length_le

def words (s : String) : List String :=
  (runs s.toList).map .ofList

-- The lines of a text, without the newlines that end them. What follows the last newline is a line
-- too, unless it is empty.
def linesOf : List Char → List (List Char)
  | []      => []
  | c :: cs =>
    if c = '\n' then
      [] :: linesOf cs
    else
      match linesOf cs with
      | []      => [[c]]
      | l :: ls => (c :: l) :: ls

def lines (s : String) : List String :=
  (linesOf s.toList).map .ofList

end BuildShell.Text
