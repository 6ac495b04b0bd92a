import BuildShell.Text.Printable

namespace BuildShell.Text

def quoteMark (cs : List Char) : Char :=
  if '\x27' ∈ cs ∧ '\x22' ∉ cs then '\x22' else '\x27'

def hexDigits : (width : Nat) → Nat → List Char
  | 0, _         => []
  | width + 1, n => hexDigits width (n / 16) ++ [Nat.digitChar (n % 16)]

def numbered (c : Char) : List Char :=
  if c.toNat < 0x100 then
    '\\' :: 'x' :: hexDigits 2 c.toNat
  else if c.toNat < 0x10000 then
    '\\' :: 'u' :: hexDigits 4 c.toNat
  else
    '\\' :: 'U' :: hexDigits 8 c.toNat

section

-- The characters that are written as they are. Which ones they are depends on the version of
-- Unicode.
variable (printable : Char → Bool)

def escaped (mark c : Char) : List Char :=
  if c = mark ∨ c = '\\' then ['\\', c]
  else if c = '\t' then ['\\', 't']
  else if c = '\n' then ['\\', 'n']
  else if c = '\r' then ['\\', 'r']
  else if printable c then [c]
  else numbered c

def quotedChars (cs : List Char) : List Char :=
  let mark := quoteMark cs
  mark :: cs.flatMap (escaped printable mark) ++ [mark]

end

def quoted (s : String) (printable : Char → Bool := isPrintable) : String :=
  .ofList (quotedChars printable s.toList)

end BuildShell.Text
