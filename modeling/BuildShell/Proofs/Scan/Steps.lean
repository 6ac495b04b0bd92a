import BuildShell.Proofs.Scan.Step

namespace BuildShell

namespace Token

theorem join_nil : join [] = "" :=
  rfl

theorem join_cons (t : Token) (ts : List Token) : join (t :: ts) = t.text ++ join ts := by
  simp [join]

theorem join_append (ts us : List Token) : join (ts ++ us) = join ts ++ join us := by
  simp [join]

end Token

namespace Scan

inductive Steps : Scan → List Token → Scan → Prop
  | refl {s} : Steps s [] s
  | step {s s' s'' t ts} : s.Step t s' → Steps s' ts s'' → Steps s (t :: ts) s''

structure AtEnd (s : Scan) : Prop where
  rest    : s.rest = []
  outside : ¬s.inBraces

def body (s : Scan) : List Token :=
  s.tokens.dropLast

def stop (s : Scan) : Token :=
  ⟨.eof, "", s.pos + s.rest.length, false⟩

variable {s s' s'' : Scan} {t : Token} {ts us : List Token} {cs : List Char}

namespace Step

theorem tokens_eq (h : s.Step t s') : s.tokens = t :: s'.tokens := by
  rw [tokens]
  have h := h.next_eq
  split
  case h_1 hn => simp [h] at hn
  case h_2 hn => simp_all

theorem stop_token (h : s.Step t s') : t.stop = s'.pos := by
  rw [Token.stop, h.start, h.pos]
  rfl

theorem size_lt (h : s.Step t s') : s'.size < s.size :=
  size_next_lt (congrArg Prod.snd h.next_eq)

theorem stop_eq (h : s.Step t s') : s'.stop = s.stop := by
  have hl := congrArg List.length h.rest
  simp only [List.length_append, String.length_toList] at hl
  simp [stop, h.pos, hl]
  omega

theorem replace (h : s.Step t s') (he : t.EndsBefore cs.head?) :
    Step { s with rest := t.text.toList ++ cs } t { s' with rest := cs } :=
  { h with ends := he, rest := rfl }

-- A step looks no further than at the character after its token.
theorem transfer (h : s.Step t s') (hc : cs.head? = s'.rest.head?) :
    Step { s with rest := t.text.toList ++ cs } t { s' with rest := cs } :=
  h.replace (hc ▸ h.ends)

theorem not_atEnd (h : s.Step t s') : ¬s.AtEnd := by
  intro ⟨hr, hb⟩
  have := next_eq_none_iff.mpr ⟨hb, hr, rfl⟩
  simp [h.next_eq] at this

end Step

namespace AtEnd

theorem tokens_eq (h : s.AtEnd) : s.tokens = [s.stop] := by
  rw [tokens]
  have h' := next_eq_none_iff.mpr ⟨h.outside, h.rest, rfl⟩
  split
  case h_1    => simp [h', stop, h.rest]
  case h_2 hn => simp [h'] at hn

end AtEnd

theorem atEnd_or_exists_step (s : Scan) : s.AtEnd ∨ ∃ t s', s.Step t s' := by
  cases h : s.next.snd
  case none =>
    have ⟨hb, hr, _⟩ := next_eq_none_iff.mp (Prod.ext rfl h)
    exact .inl ⟨hr, hb⟩
  case some s' => exact .inr ⟨_, s', next_eq_some_iff.mp (Prod.ext rfl h)⟩

-- What holds at the end of the line, and is kept when a step is put in front, holds of all that is
-- still to come.
theorem tokens_induction {motive : Scan → List Token → Prop}
    (stop : ∀ {s}, s.AtEnd → motive s [s.stop])
    (step : ∀ {s t s'}, s.Step t s' → motive s' s'.tokens → motive s (t :: s'.tokens)) (s : Scan) :
    motive s s.tokens := by
  match s.atEnd_or_exists_step with
  | .inl he          => exact he.tokens_eq ▸ stop he
  | .inr ⟨_, s', h⟩ => exact h.tokens_eq ▸ step h (tokens_induction stop step s')
termination_by s.size
decreasing_by exact h.size_lt

theorem tokens_eq (s : Scan) : s.tokens = s.body ++ [s.stop] := by
  refine tokens_induction (motive := fun s ts => ts = ts.dropLast ++ [s.stop]) ?stop ?step s
  case stop => exact fun _ => rfl
  case step =>
    intro s t s' h hi
    rw [hi, ← List.cons_append, List.dropLast_concat, h.stop_eq]

theorem Step.body_eq (h : s.Step t s') : s.body = t :: s'.body := by
  rw [body, h.tokens_eq, s'.tokens_eq, ← List.cons_append, List.dropLast_concat]

theorem AtEnd.body_eq (h : s.AtEnd) : s.body = [] := by
  simp [body, h.tokens_eq]

namespace Steps

theorem single (h : s.Step t s') : Steps s [t] s' :=
  .step h .refl

theorem append (h : Steps s ts s') (h' : Steps s' us s'') : Steps s (ts ++ us) s'' := by
  induction h
  case refl        => exact h'
  case step e _ hi => exact .step e (hi h')

theorem split (h : Steps s (ts ++ us) s'') : ∃ s', Steps s ts s' ∧ Steps s' us s'' := by
  induction ts generalizing s
  case nil => exact ⟨s, .refl, h⟩
  case cons hi =>
    cases h
    case step e h =>
      have ⟨s', h₁, h₂⟩ := hi h
      exact ⟨s', .step e h₁, h₂⟩

theorem exists_last_step (h : Steps s (ts ++ [t]) s'') : ∃ s', Steps s ts s' ∧ s'.Step t s'' := by
  have ⟨s', hs, h⟩ := h.split
  cases h
  case step e h =>
    cases h
    exact ⟨s', hs, e⟩

theorem exists_step_of_mem_getLast? (h : Steps s ts s') (ht : t ∈ ts.getLast?) :
    ∃ s₁, Step s₁ t s' := by
  have ⟨us, hus⟩ := List.getLast?_eq_some_iff.mp ht
  have ⟨s₁, _, h⟩ := (hus ▸ h).exists_last_step
  exact ⟨s₁, h⟩

theorem rest (h : Steps s ts s') : s.rest = (Token.join ts).toList ++ s'.rest := by
  induction h
  case refl        => simp [Token.join_nil]
  case step e _ hi => simp [Token.join_cons, e.rest, hi]

theorem pos (h : Steps s ts s') : s'.pos = s.pos + (Token.join ts).length := by
  induction h
  case refl        => simp [Token.join_nil]
  case step e _ hi => simp [Token.join_cons, e.pos, hi, Nat.add_assoc]

theorem body_eq (h : Steps s ts s') : s.body = ts ++ s'.body := by
  induction h
  case refl        => rfl
  case step e _ hi => rw [e.body_eq, hi, List.cons_append]

theorem stop_eq (h : Steps s ts s') : s'.stop = s.stop := by
  induction h
  case refl        => rfl
  case step e _ hi => rw [hi, e.stop_eq]

theorem tokens_eq (h : Steps s ts s') : s.tokens = ts ++ s'.tokens := by
  rw [s.tokens_eq, h.body_eq, ← h.stop_eq, List.append_assoc, ← s'.tokens_eq]

theorem exists_step_of_mem (h : Steps s ts s') (ht : t ∈ ts) : ∃ s₁ s₂, Step s₁ t s₂ := by
  induction h
  case refl => contradiction
  case step e _ hi =>
    cases ht
    case head    => exact ⟨_, _, e⟩
    case tail ht => exact hi ht

theorem outside (h : Steps s ts s') (hs : ¬s.inBraces)
    (hl : ∀ t ∈ ts.getLast?, t.kind ≠ .leftBrace) : ¬s'.inBraces := by
  cases ts.eq_nil_or_concat'
  case inl hn =>
    subst hn
    cases h
    exact hs
  case inr hc =>
    have ⟨_, _, hc⟩ := hc
    subst hc
    have ⟨_, _, h⟩ := h.exists_last_step
    simpa [h.braces] using hl

theorem transfer (h : Steps s ts s') (hc : cs.head? = s'.rest.head?) :
    Steps { s with rest := (Token.join ts).toList ++ cs } ts { s' with rest := cs } := by
  induction h
  case refl => exact .refl
  case step s' _ _ ts e h hi =>
    have hs : ((Token.join ts).toList ++ cs).head? = s'.rest.head? := by
      simp [h.rest, List.head?_append, hc]
    simpa [Token.join_cons] using Steps.step (e.transfer hs) (hi hc)

theorem transfer_line {line : String} (h : Steps (ofLine line) ts s')
    (hc : cs.head? = s'.rest.head?) :
    Steps (ofLine (Token.join ts ++ .ofList cs)) ts { s' with rest := cs } := by
  simpa [ofLine] using h.transfer hc

end Steps

theorem exists_steps_atEnd (s : Scan) : ∃ s', Steps s s.body s' ∧ s'.AtEnd := by
  refine tokens_induction (motive := fun s _ => ∃ s', Steps s s.body s' ∧ s'.AtEnd) ?stop ?step s
  case stop => exact fun h => ⟨_, h.body_eq ▸ .refl, h⟩
  case step =>
    intro s t s' h ⟨s'', hs, he⟩
    exact ⟨s'', h.body_eq ▸ .step h hs, he⟩

theorem body_eq_append_iff : s.body = ts ++ us ↔ ∃ s', Steps s ts s' ∧ s'.body = us where
  mp h := by
    have ⟨_, hs, _⟩ := s.exists_steps_atEnd
    have ⟨s', hs, _⟩ := (h ▸ hs).split
    exact ⟨s', hs, List.append_cancel_left (hs.body_eq.symm.trans h)⟩
  mpr := by
    rintro ⟨s', hs, rfl⟩
    exact hs.body_eq

theorem body_eq_cons_iff : s.body = t :: us ↔ ∃ s', s.Step t s' ∧ s'.body = us where
  mp h := by
    have h : s.body = [t] ++ us := h
    have ⟨s', hs, hb⟩ := body_eq_append_iff.mp h
    cases hs
    case step h' hs => cases hs; exact ⟨s', h', hb⟩
  mpr := by
    rintro ⟨s', h, rfl⟩
    exact h.body_eq

end Scan

end BuildShell
