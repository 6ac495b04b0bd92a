import BuildShell.ScopedKey
import BuildShell.Text.Blank

namespace BuildShell

inductive Form
  | scopedKey
  | unstructured
deriving DecidableEq

def Form.name : Form → String
  | scopedKey    => "scoped_key"
  | unstructured => "opaque"

-- What a whole line says. With a scoped key in it, `leading` is the whitespace before the key and
-- `trailing` is what follows the key. Without one, everything is in `trailing`, and `uri?` is the
-- URI at the front of the line, if there is one.
structure Command where
  form       : Form             := .unstructured
  scopedKey? : Option ScopedKey := none
  uri?       : Option Uri       := none
  leading    : List Token       := []
  trailing   : List Token       := []
  tokens     : List Token       := []
  span       : Span             := .origin

namespace Command

instance : BEq Command where
  beq c₁ c₂ :=
    c₁.form == c₂.form && c₁.scopedKey? == c₂.scopedKey? && c₁.uri? == c₂.uri? &&
    c₁.leading == c₂.leading && c₁.trailing == c₂.trailing

variable (c : Command)

def isUnstructured : Bool :=
  c.form = .unstructured

def source : String :=
  Token.join c.tokens

def freeText : String :=
  Token.join c.trailing

def arguments : List String :=
  Text.words c.freeText

end Command

end BuildShell
