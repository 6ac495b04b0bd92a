import BuildShell.CommandLine.Switch
import BuildShell.Text.Numeral

namespace BuildShell.CommandLine

open Text

-- An argument on its own: an operand, a switch by its letter or by its word, each with what is
-- attached to it, something that looks like a switch, or the mark `--`, after which there are only
-- operands.
inductive Argument
  | operand (text : String)
  | letter (switch : Switch) (attached? : Option String)
  | word (switch : Switch) (attached? : Option String)
  | unknown (text : String)
  | mark

-- A minus, and a whole number or a decimal fraction. A newline may come at the end.
def isNegativeNumber (arg : List Char) : Bool :=
  match arg with
  | '-' :: cs =>
    let cs := if cs.getLast? = some '\n' then cs.dropLast else cs
    match cs.dropWhile isDecimal with
    | []              => cs ≠ []
    | '.' :: decimals => decimals ≠ [] && decimals.all isDecimal
    | _               => false
  | _ => false

namespace Argument

def splitValue (cs : List Char) : List Char × Option String :=
  (cs.takeWhile (· ≠ '='), ((cs.dropWhile (· ≠ '=')).tail?).map .ofList)

def ofDashed (arg : String) : Argument :=
  if isNegativeNumber arg.toList || ' ' ∈ arg.toList then operand arg else unknown arg

def ofLong (arg : String) (cs : List Char) : Except Misuse Argument :=
  let (name, value?) := splitValue cs
  match Switch.ofWord name with
  | []  => .ok (ofDashed arg)
  | [s] => .ok (word s value?)
  | ss  => .error (.ambiguous arg ss)

-- The value after an equals sign is attached to a letter like the rest of the argument.
def ofShort (arg : String) (c : Char) (cs : List Char) : Argument :=
  match Switch.ofLetter? c, cs with
  | none, _           => ofDashed arg
  | some s, []        => letter s none
  | some s, '=' :: cs => letter s (some (.ofList cs))
  | some s, cs        => letter s (some (.ofList cs))

def ofText (arg : String) : Except Misuse Argument :=
  match arg.toList with
  | '-' :: '-' :: cs => ofLong arg cs
  | '-' :: c :: cs   => .ok (ofShort arg c cs)
  | _                => .ok (operand arg)

def ofTexts : List String → Except Misuse (List Argument)
  | []          => .ok []
  | arg :: args =>
    if arg = "--" then
      .ok (mark :: args.map operand)
    else do
      let a  ← ofText arg
      let as ← ofTexts args
      return a :: as

def bundle (s : Switch) : List Char → Except Misuse (List Switch)
  | []      => .ok [s]
  | c :: cs =>
    match Switch.ofLetter? c with
    | none    => .error (.value s (.ofList (c :: cs)))
    | some s' => (s :: ·) <$> bundle s' cs

def switches : Argument → Except Misuse (List Switch)
  | letter s none | word s none  => .ok [s]
  | letter s (some "")           => .error (.value s "")
  | letter s (some attached)     => bundle s attached.toList
  | word s (some value)          => .error (.value s value)
  | operand _ | unknown _ | mark => .ok []

end Argument

end BuildShell.CommandLine
