import BuildShell.Proofs.Segment
import BuildShell.Reading

namespace BuildShell

open Token

def Uri.ofTokens? : List Token → Option Uri
  | [brace, body, closing] => some { text := body.text, span := ⟨brace.start, closing.stop⟩ }
  | _                      => none

structure Front where
  leading : List Token
  uri     : List Token
  project : List Token
  config  : List Token

namespace Front

variable (f : Front)

def tokens : List Token :=
  f.leading ++ (f.uri ++ (f.project ++ f.config))

def uri? : Option Uri :=
  Uri.ofTokens? f.uri

def project? : Option Leaf :=
  f.project.head?.map .ofToken

def config? : Option Leaf :=
  f.config.head?.map .ofToken

def phases : List Phase :=
  (f.uri?.map fun _ => .uri).toList ++ (f.project?.map fun _ => .project).toList ++
  (f.config?.map fun _ => .config).toList ++ [.requireKey]

structure Valid : Prop where
  leading : ∀ t ∈ f.leading, t.kind = .whitespace
  uri     : Segment [.leftBrace, .uriBody, .rightBrace] f.uri
  closed  : ∀ t ∈ f.uri, t.kind = .uriBody → ¬t.malformed
  project : Segment [.identifier, .slash] f.project
  config  : Segment [.identifier, .colon] f.config

variable {f}

theorem Valid.uri_eq (h : f.Valid) (hu : f.uri ≠ []) :
    ∃ brace body closing, f.uri = [brace, body, closing] ∧ brace.kind = .leftBrace ∧
      body.kind = .uriBody ∧ closing.kind = .rightBrace ∧ ¬body.malformed := by
  have ⟨brace, body, closing, hu, hbr, hbo, hcl⟩ := h.uri.eq_triple hu
  exact ⟨brace, body, closing, hu, hbr, hbo, hcl, h.closed body (by simp [hu]) hbo⟩

theorem Valid.not_begins {k : Kind} {ts : List Token} (h : f.Valid) (hk : k ≠ .identifier)
    (hn : f.project = [] → f.config = [] → ¬Begins [k] ts) :
    ¬Begins [k] (f.project ++ (f.config ++ ts)) := by
  refine h.project.not_begins (by simpa) (by simp) fun hp => ?_
  exact h.config.not_begins (by simpa) (by simp) fun hc => hn hp hc

theorem Valid.kind_ne_of_mem_getLast? (h : f.Valid) :
    ∀ t ∈ f.tokens.getLast?, t.kind ≠ .leftBrace := by
  intro t ht hk
  simp only [tokens, List.getLast?_append, Option.mem_def, Option.or_eq_some_iff] at ht
  obtain ((ht | ⟨_, ht⟩) | ⟨_, ht⟩) | ⟨_, ht⟩ := ht
  case inl.inl.inl => simpa [hk] using h.config.kind_of_mem_getLast? ht
  case inl.inl.inr => simpa [hk] using h.project.kind_of_mem_getLast? ht
  case inl.inr     => simpa [hk] using h.uri.kind_of_mem_getLast? ht
  case inr         => simpa [hk] using h.leading t (List.mem_of_getLast? ht)

-- None of the parts can be read on into the tokens that are left, which do not begin with a key.
structure StopsAt (f : Front) (left : List Token) : Prop where
  key     : ¬Begins [.identifier] left
  leading : f.uri = [] → f.project = [] → f.config = [] → ¬Begins [.whitespace] left
  uri     : f.uri = [] → f.project = [] → f.config = [] → ¬Begins [.leftBrace] left

end Front

structure Layout extends Front where
  key      : Token
  intask   : List Token
  trailing : List Token

namespace Layout

variable (y : Layout)

def tokens : List Token :=
  y.toFront.tokens ++ y.key :: (y.intask ++ y.trailing)

def intask? : Option Leaf :=
  y.intask.getLast?.map .ofToken

def first : Token :=
  (y.uri ++ (y.project ++ y.config)).headD y.key

def scopedKey : ScopedKey where
  uri?     := y.uri?
  project? := y.project?
  config?  := y.config?
  key      := .ofToken y.key
  intask?  := y.intask?
  span     := ⟨y.first.start, (y.intask?.getD (.ofToken y.key)).span.stop⟩

theorem span_scopedKey :
    y.scopedKey.span = ⟨y.first.start, (y.intask.getLast?.getD y.key).stop⟩ := by
  simp only [scopedKey, intask?]
  cases y.intask.getLast? <;> rfl

def reading (l : TokenLine) : Reading where
  command := {
    form       := .scopedKey
    scopedKey? := some y.scopedKey
    leading    := y.leading
    trailing   := y.trailing
    tokens     := l.body
    span       := l.span }
  entered := y.phases ++ (y.intask?.map fun _ => .intask).toList ++ [.done]
  left    := y.trailing

structure Valid : Prop extends y.toFront.Valid where
  key       : y.key.kind = .identifier
  intask    : Segment [.doubleColon, .identifier] y.intask
  noIntask  : y.intask = [] → ¬Begins [.doubleColon, .identifier] y.trailing
  noConfig  : y.intask = [] → y.config = [] → ¬Begins [.colon] y.trailing
  noProject : y.intask = [] → y.config = [] → y.project = [] → ¬Begins [.slash] y.trailing

end Layout

inductive TokenLine.Reads (l : TokenLine) : Reading → Prop
  | scopedKey {y : Layout} : y.Valid → l.body = y.tokens → Reads l (y.reading l)
  | keyExpected {f : Front} {left} :
    f.Valid → l.body = f.tokens ++ left → f.StopsAt left →
    Reads l (l.giveUp f.phases f.uri? .keyExpected left)
  | bodyExpected {leading brace left} :
    (∀ t ∈ leading, t.kind = .whitespace) → brace.kind = .leftBrace →
    l.body = leading ++ brace :: left → ¬Begins [.uriBody] left →
    Reads l (l.giveUp [.uri] none .uriExpected left)
  | braceExpected {leading brace body left} :
    (∀ t ∈ leading, t.kind = .whitespace) → brace.kind = .leftBrace → body.kind = .uriBody →
    ¬body.malformed → l.body = leading ++ brace :: body :: left → ¬Begins [.rightBrace] left →
    Reads l (l.giveUp [.uri] none .uriExpected left)
  | uriUnterminated {leading brace body left} :
    (∀ t ∈ leading, t.kind = .whitespace) → brace.kind = .leftBrace → body.kind = .uriBody →
    body.malformed → l.body = leading ++ brace :: body :: left →
    Reads l (l.giveUp [.uri]
      (some { text := body.text, span := ⟨brace.start, body.stop⟩, malformed := true })
      .uriUnterminated left)

end BuildShell
