import BuildShell.Text.Quoted

namespace BuildShell.CommandLine

open Text

inductive Switch
  | help
  | tokens
  | spans
  | check
  | repl
  | verbose
  | version
deriving DecidableEq

namespace Switch

def letter? : Switch → Option Char
  | help    => 'h'
  | verbose => 'v'
  | _       => none

def word : Switch → String
  | help    => "help"
  | tokens  => "tokens"
  | spans   => "spans"
  | check   => "check"
  | repl    => "repl"
  | verbose => "verbose"
  | version => "version"

def all : List Switch :=
  [help, tokens, spans, check, repl, verbose, version]

def ofLetter? (c : Char) : Option Switch :=
  all.find? (·.letter? = c)

-- The switches that a word can stand for: the one that it names, or else all whose names it begins.
def ofWord (word : List Char) : List Switch :=
  match all.find? (·.word.toList = word) with
  | some s => [s]
  | none   => all.filter (word.isPrefixOf ·.word.toList)

def long (s : Switch) : String :=
  "--" ++ s.word

def spellings (s : Switch) : String :=
  s.letter?.elim "" (fun c => "-" ++ .singleton c ++ "/") ++ s.long

end Switch

inductive Misuse
  | ambiguous (arg : String) (candidates : List Switch)
  | value (switch : Switch) (text : String)
  | unrecognized (args : List String)

def Misuse.message : Misuse → String
  | ambiguous arg candidates =>
    "ambiguous option: " ++ arg ++ " could match " ++ ", ".intercalate (candidates.map (·.long))
  | value switch text =>
    "argument " ++ switch.spellings ++ ": ignored explicit argument " ++ quoted text
  | unrecognized args => "unrecognized arguments: " ++ " ".intercalate args

end BuildShell.CommandLine
