import BuildShell.Scan

namespace BuildShell

-- A line as a sequence of tokens, the last of which is set apart: it is the one that stands for the
-- end of the line. The others can be of any kind and stand at any place.
structure TokenLine where
  body     : List Token
  stop     : Token
  stop_eof : stop.kind = .eof

namespace TokenLine

-- Tokens that do not end with the end of the line get it where the last one of them stops.
def ofTokens (ts : List Token) : TokenLine :=
  match ts.getLast? with
  | none   => ⟨[], ⟨.eof, "", 0, false⟩, rfl⟩
  | some t =>
    if h : t.kind = .eof then
      ⟨ts.dropLast, t, h⟩
    else
      ⟨ts, ⟨.eof, "", t.stop, false⟩, rfl⟩

def ofText (text : String) : TokenLine :=
  ofTokens (tokenize text)

variable (l : TokenLine)

def tokens : List Token :=
  l.body ++ [l.stop]

def front (left : List Token) : Token :=
  left.headD l.stop

end TokenLine

end BuildShell
