import BuildShell.Identifier
import BuildShell.Index
import BuildShell.Text.Blank
import BuildShell.Token

namespace BuildShell

open Text

-- A scan of a line that stands between two of its tokens: the position that it has reached, the
-- characters from there on, and whether the token before it was an opening brace.
structure Scan where
  pos      : Nat
  rest     : List Char
  inBraces : Bool := false

namespace Scan

def ofLine (line : String) : Scan :=
  ⟨0, line.toList, false⟩

def take (s : Scan) (kind : Kind) (text rest : List Char) (malformed : Bool := false) :
    Token × Option Scan :=
  (⟨kind, .ofList text, s.pos, malformed⟩, some ⟨s.pos + text.length, rest, kind = .leftBrace⟩)

-- Between braces stands everything up to the first closing brace. Only a body that is never closed
-- can be empty: in `{}` the closing brace follows at once.
def nextInBraces (s : Scan) : Token × Option Scan :=
  match s.rest.takeWhile (· ≠ '}'), s.rest.dropWhile (· ≠ '}') with
  | [], brace :: rest => s.take .rightBrace [brace] rest
  | body, rest        => s.take .uriBody body rest rest.isEmpty

def next (s : Scan) : Token × Option Scan :=
  if s.inBraces then
    s.nextInBraces
  else
    match s.rest with
    | [] => (⟨.eof, "", s.pos, false⟩, none)
    | c :: cs =>
      if isBlank c then
        s.take .whitespace (c :: cs.takeWhile isBlank) (cs.dropWhile isBlank)
      else if Identifier.isStart c then
        s.take .identifier (c :: cs.takeWhile Identifier.isPart) (cs.dropWhile Identifier.isPart)
      else
        match c, cs with
        | ':', ':' :: cs => s.take .doubleColon [':', ':'] cs
        | _, _           => s.take (.ofChar c) [c] cs

def size (s : Scan) : Nat :=
  2 * s.rest.length + s.inBraces.toNat

theorem length_dropWhile_le (p : Char → Bool) (cs : List Char) :
    (cs.dropWhile p).length ≤ cs.length :=
  (List.dropWhile_suffix p).length_le

theorem size_take_eq {s s' : Scan} {kind text left malformed}
    (h : (s.take kind text left malformed).snd = some s') :
    s'.size = 2 * left.length + (decide (kind = .leftBrace)).toNat := by
  cases h
  rfl

theorem size_take_lt {s s' : Scan} {kind text left malformed}
    (h : (s.take kind text left malformed).snd = some s') (hl : left.length < s.rest.length) :
    s'.size < s.size := by
  have he := size_take_eq h
  have hb := Bool.toNat_le (decide (kind = .leftBrace))
  unfold size at *
  omega

theorem size_nextInBraces_lt {s s' : Scan} (hb : s.inBraces) (h : s.nextInBraces.snd = some s') :
    s'.size < s.size := by
  have hl := length_dropWhile_le (· ≠ '}') s.rest
  have hs : s.size = 2 * s.rest.length + 1 := by simp [size, hb]
  unfold nextInBraces at h
  split at h
  case h_1 brace left _ hd =>
    have he := size_take_eq h
    have hd := congrArg List.length hd
    simp at he hl hd
    omega
  case h_2 =>
    have he := size_take_eq h
    simp at he hl
    omega

theorem size_next_lt {s s' : Scan} (h : s.next.snd = some s') : s'.size < s.size := by
  unfold next at h
  split at h
  case isTrue hb => exact size_nextInBraces_lt hb h
  case isFalse =>
    split at h
    case h_1 => cases h
    case h_2 c cs hr =>
      split at h
      case isTrue => exact size_take_lt h (hr ▸ Nat.lt_succ_of_le (length_dropWhile_le ..))
      case isFalse =>
        split at h
        case isTrue => exact size_take_lt h (hr ▸ Nat.lt_succ_of_le (length_dropWhile_le ..))
        case isFalse =>
          split at h
          case h_1 => exact size_take_lt h (hr ▸ by simp only [List.length_cons]; omega)
          case h_2 => exact size_take_lt h (hr ▸ Nat.lt_succ_self _)

def tokens (s : Scan) : List Token :=
  match _ : s.next.snd with
  | none    => [s.next.fst]
  | some s' => s.next.fst :: s'.tokens
termination_by s.size
decreasing_by exact size_next_lt ‹_›

-- The characters that come up when a line is read on from a position. A negative position rises
-- through zero, so that the line is read once more from its beginning.
def onward (cs : List Char) (pos : Int) : Except Index.Fault (List Char) :=
  if pos < 0 then
    (Index.resolve cs.length pos).map fun i => cs.drop i ++ cs
  else
    .ok (cs.drop pos.toNat)

-- Where a run of characters of one class ends, whose first character stands at `pos`. Of that one
-- the class is not asked.
def runEnd (p : Char → Bool) (line : String) (pos : Int) : Except Index.Fault Int :=
  (onward line.toList (pos + 1)).map fun cs => pos + 1 + (cs.takeWhile p).length

def identifierEnd : String → Int → Except Index.Fault Int :=
  runEnd Identifier.isPart

def whitespaceEnd : String → Int → Except Index.Fault Int :=
  runEnd isBlank

def uriBodyEnd (line : String) (pos : Int) : Nat :=
  let start := Span.place line.length pos
  match line.toList.drop start |>.findIdx? (· = '}') with
  | some i => start + i
  | none   => line.length

end Scan

def tokenize (line : String) : List Token :=
  (Scan.ofLine line).tokens

end BuildShell
