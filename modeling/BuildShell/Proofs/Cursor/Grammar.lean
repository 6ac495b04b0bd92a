import BuildShell.Proofs.Cursor.Reading
import BuildShell.Proofs.Reading.Decomposition

namespace BuildShell

open Index Token

namespace Layout

-- A key that is made of the parts of a line: what has been left out is missing, and everything else
-- has the text and the place of its own token. The place of a URI includes its braces.
structure Gives (y : Layout) (k : ScopedKey) : Prop where
  noUri     : k.uri? = none ↔ y.uri = []
  uri       : ∀ brace body closing, y.uri = [brace, body, closing] →
    k.uri? = some { text := body.text, span := ⟨brace.start, closing.stop⟩, malformed := false }
  noProject : k.project? = none ↔ y.project = []
  project   : ∀ t m, y.project = [t, m] → k.project? = some { text := t.text, span := t.span }
  noConfig  : k.config? = none ↔ y.config = []
  config    : ∀ t m, y.config = [t, m] → k.config? = some { text := t.text, span := t.span }
  key       : k.key = { text := y.key.text, span := y.key.span }
  noIntask  : k.intask? = none ↔ y.intask = []
  intask    : ∀ m t, y.intask = [m, t] → k.intask? = some { text := t.text, span := t.span }
  span      : k.span = ⟨y.first.start, (y.intask.getLast?.getD y.key).stop⟩

variable {y : Layout}

theorem Valid.uri?_eq_none (h : y.Valid) : y.scopedKey.uri? = none ↔ y.uri = [] := by
  by_cases hn : y.uri = []
  case pos => simp [scopedKey, Front.uri?, hn, Uri.ofTokens?]
  case neg =>
    obtain ⟨_, _, _, hu, _⟩ := h.uri_eq hn
    simp [scopedKey, Front.uri?, hu, Uri.ofTokens?]

theorem Valid.gives (h : y.Valid) : y.Gives y.scopedKey where
  noUri              := h.uri?_eq_none
  uri _ _ _ hu       := by simp [scopedKey, Front.uri?, hu, Uri.ofTokens?]
  noProject          := project?_eq_none
  project _ _ hp     := by simp [scopedKey, Front.project?, hp, Leaf.ofToken]
  noConfig           := config?_eq_none
  config _ _ hc      := by simp [scopedKey, Front.config?, hc, Leaf.ofToken]
  key                := rfl
  noIntask           := intask?_eq_none
  intask _ _ hi      := by simp [scopedKey, intask?, hi, Leaf.ofToken]
  span               := y.span_scopedKey

end Layout

namespace Cursor

variable {c : Cursor} {y : Layout}

theorem parse_eq_of_layout (hy : y.Valid) (hb : c.body = y.tokens) :
    c.parse = outcome c.line (y.reading c.line) := by
  rw [parse_eq, (TokenLine.Reads.scopedKey hy hb).read_eq]

theorem parse_cases (c : Cursor) :
    (∃ y : Layout, y.Valid ∧ c.body = y.tokens) ∨
    ∃ uri?, c.parse.fst = c.line.unstructured uri? := by
  obtain ⟨y, hy, hb, _⟩ | ⟨_, uri?, _, _, h⟩ := c.line.read_cases
  case inl => exact .inl ⟨y, hy, hb⟩
  case inr => exact .inr ⟨uri?, by rw [parse_eq, h]; rfl⟩

theorem parse_iff_layout (c : Cursor) (leading trailing : List Token) :
    (c.parse.fst.form = .scopedKey ∧ c.parse.fst.leading = leading ∧
      c.parse.fst.trailing = trailing) ↔
    ∃ y : Layout, y.Valid ∧ c.body = y.tokens ∧ y.leading = leading ∧ y.trailing = trailing where
  mp := by
    rintro ⟨hf, rfl, rfl⟩
    cases c.parse_cases
    case inl h =>
      have ⟨y, hy, hb⟩ := h
      rw [parse_eq_of_layout hy hb]
      exact ⟨y, hy, hb, rfl, rfl⟩
    case inr h =>
      have ⟨_, h⟩ := h
      rw [h] at hf
      cases hf
  mpr := by
    rintro ⟨y, hy, hb, rfl, rfl⟩
    rw [parse_eq_of_layout hy hb]
    exact ⟨rfl, rfl, rfl⟩

theorem parse_of_unstructured (h : c.parse.fst.form = .unstructured) :
    c.parse.fst.scopedKey? = none ∧ c.parse.fst.leading = [] ∧ c.parse.fst.trailing = c.body := by
  cases c.parse_cases
  case inl hy =>
    have ⟨y, hy, hb⟩ := hy
    rw [parse_eq_of_layout hy hb] at h
    cases h
  case inr hu =>
    have ⟨_, hu⟩ := hu
    rw [hu]
    exact ⟨rfl, rfl, rfl⟩

-- Reading tokens never looks up one that is not there, and it finds a key just where the tokens have
-- the layout of a line with a key, whatever the tokens are and whether they belong to a line or not.
theorem parse_ofTokens (ts : List Token) :
    let c := ofTokens ts
    c.line.Completes ts ∧ Yields c.line.tokens.length c.parseStepwise c.parse ∧
    (∀ leading trailing,
      (c.parse.fst.form = .scopedKey ∧ c.parse.fst.leading = leading ∧
        c.parse.fst.trailing = trailing) ↔
      ∃ y : Layout, y.Valid ∧ c.body = y.tokens ∧ y.leading = leading ∧ y.trailing = trailing) ∧
    (∀ y : Layout, y.Valid → c.body = y.tokens →
      c.parse.snd.pos = c.body.length - y.trailing.length ∧
      ∃ k, c.parse.fst.scopedKey? = some k ∧ y.Gives k) ∧
    (c.parse.fst.form = .unstructured →
      c.parse.fst.scopedKey? = none ∧ c.parse.fst.leading = [] ∧ c.parse.fst.trailing = c.body) := by
  intro c
  refine ⟨TokenLine.completes_ofTokens ts, c.yields_parseStepwise, c.parse_iff_layout,
    fun y hy hb => ?_, parse_of_unstructured⟩
  rw [parse_eq_of_layout hy hb]
  exact ⟨rfl, _, rfl, hy.gives⟩

end Cursor

end BuildShell
