import BuildShell.Text.Letter
import BuildShell.Text.Numeral

namespace BuildShell.Identifier

open Text

def isStart (c : Char) : Bool :=
  isLetter c

def isAlphanumeric (c : Char) : Bool :=
  isLetter c || isNumeral c

def isPart (c : Char) : Bool :=
  isAlphanumeric c || c = '-' || c = '_'

-- A text of several characters is in a class if each of its characters is, but a hyphen and an
-- underscore count only when they stand alone.
def isStartText (s : String) : Bool :=
  s ≠ "" && s.toList.all isStart

def isPartText (s : String) : Bool :=
  s ≠ "" && s.toList.all isAlphanumeric || s = "-" || s = "_"

end BuildShell.Identifier
