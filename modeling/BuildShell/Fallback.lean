namespace BuildShell

inductive Reason
  | uriExpected
  | uriUnterminated
  | keyExpected
deriving DecidableEq

def Reason.text : Reason → String
  | uriExpected     => "expected a build URI between braces"
  | uriUnterminated => "unterminated build URI"
  | keyExpected     => "expected a key"

structure Fallback where
  reason : Reason
  column : Int
deriving DecidableEq

def Fallback.message (f : Fallback) : String :=
  "[sbt-shell C" ++ toString f.column ++ "] Syntax error: " ++ f.reason.text

-- What is noted down when a line is kept as it is.
structure Record where
  column : Int
  reason : String

def Fallback.record (f : Fallback) : Record :=
  ⟨f.column, f.reason.text⟩

structure Logged (α : Type) where
  value : α
  log   : List Record := []

namespace Logged

instance : Monad Logged where
  pure a   := ⟨a, []⟩
  bind x f := ⟨(f x.value).value, x.log ++ (f x.value).log⟩

variable {α β : Type}

@[simp]
theorem value_bind (x : Logged α) (f : α → Logged β) : (x >>= f).value = (f x.value).value :=
  rfl

end Logged

end BuildShell
