import BuildShell.Span
import BuildShell.Text.Quoted

namespace BuildShell

open Text

inductive Kind
  | identifier
  | slash
  | colon
  | doubleColon
  | leftBrace
  | rightBrace
  | uriBody    -- what stands between two braces
  | whitespace
  | other      -- a character that means nothing to the shell
  | eof
deriving DecidableEq

namespace Kind

def name : Kind → String
  | identifier  => "IDENTIFIER"
  | slash       => "SLASH"
  | colon       => "COLON"
  | doubleColon => "DOUBLE_COLON"
  | leftBrace   => "LBRACE"
  | rightBrace  => "RBRACE"
  | uriBody     => "URI_BODY"
  | whitespace  => "WHITESPACE"
  | other       => "OTHER"
  | eof         => "EOF"

def all : List Kind :=
  [identifier, slash, colon, doubleColon, leftBrace, rightBrace, uriBody, whitespace, other, eof]

def ofName? (name : String) : Option Kind :=
  all.find? (·.name = name)

def ofChar (c : Char) : Kind :=
  if c = '/' then slash
  else if c = ':' then colon
  else if c = '{' then leftBrace
  else if c = '}' then rightBrace
  else other

end Kind

-- The flag `malformed` marks the body of a URI whose closing brace never comes.
structure Token where
  kind      : Kind
  text      : String
  start     : Int
  malformed : Bool := false
deriving DecidableEq

namespace Token

variable (t : Token)

def stop : Int :=
  t.start + t.text.length

def span : Span :=
  ⟨t.start, t.stop⟩

def column : Int :=
  t.start + 1

def render (printable : Char → Bool := isPrintable) : String :=
  let flag := if t.malformed then ", malformed" else ""
  "Token(" ++ t.kind.name ++ ", " ++ quoted t.text printable ++ ", C" ++ toString t.column ++
  flag ++ ")"

end Token

def Token.join (ts : List Token) : String :=
  .join (ts.map text)

end BuildShell
