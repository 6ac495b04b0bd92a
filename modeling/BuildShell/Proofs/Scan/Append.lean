import BuildShell.Proofs.Scan.Steps

namespace BuildShell

open Text

namespace Token

def shift (n : Nat) (t : Token) : Token :=
  { t with start := t.start + n }

-- Whether a token at the end of a text does not stay as it is when the text goes on with the given
-- character.
def GoesOn (t : Token) (c : Char) : Prop :=
  (t.kind = .identifier ∧ Identifier.isPart c) ∨ (t.kind = .whitespace ∧ isBlank c) ∨
  (t.kind = .colon ∧ c = ':') ∨ (t.kind = .uriBody ∧ t.malformed)

theorem endsBefore_some_iff {t : Token} {c : Char} (he : t.kind ≠ .eof)
    (hb : t.kind = .uriBody → t.malformed) : t.EndsBefore (some c) ↔ ¬t.GoesOn c := by
  cases hk : t.kind <;> simp_all [EndsBefore, GoesOn]

end Token

namespace Scan

open Token

def shift (n : Nat) (s : Scan) : Scan :=
  { s with pos := s.pos + n }

variable {s s' : Scan} {t : Token} {ts : List Token} {cs : List Char}
  {line text : String} {n : Nat}

namespace Step

theorem shift (h : s.Step t s') : (s.shift n).Step (t.shift n) (s'.shift n) where
  start   := by simp [Token.shift, Scan.shift, h.start]
  flag    := h.flag
  spells  := h.spells
  ends    := h.ends
  inside  := h.inside
  outside := h.outside
  rest    := h.rest
  pos     := by simp [Token.shift, Scan.shift, h.pos, Nat.add_right_comm]
  braces  := h.braces

theorem unclosed_of_text_eq_empty (h : s.Step t s') (ht : t.text = "") :
    t.kind = .uriBody ∧ t.malformed := by
  have hs := h.spells
  have he := h.ends
  by_cases hk : t.kind = .uriBody
  case pos => exact ⟨hk, by_contra fun hm => (he.closed hk hm).left ht⟩
  case neg => cases hk' : t.kind <;> simp_all [Kind.Spells, Identifier.Valid, EndsBefore]

theorem endsBefore_append {u : Token} {s₁ : Scan} (h : s.Step t s₁) (h' : s₁.Step u s') :
    t.EndsBefore (u.text.toList ++ cs).head? := by
  by_cases hu : u.text = ""
  case pos =>
    -- Then `u` is a body without a closing brace, which goes where an opening brace has been.
    have hk := (h'.unclosed_of_text_eq_empty hu).left
    have hb : t.kind = .leftBrace := by simpa [h.braces] using h'.outside hk
    simp [EndsBefore, hb]
  case neg =>
    obtain ⟨c, _, hu⟩ := List.exists_cons_of_ne_nil <| mt String.toList_eq_nil_iff.mp hu
    simpa [h'.rest, hu] using h.ends

theorem malformed_of_rest_eq_nil (h : s.Step t s') (hr : s'.rest = []) (hk : t.kind = .uriBody) :
    t.malformed :=
  by_contra fun hm => by simpa [hr] using (h.ends.closed hk hm).right

end Step

theorem AtEnd.shift (h : s.AtEnd) : (s.shift n).AtEnd :=
  ⟨h.rest, h.outside⟩

theorem stop_shift (s : Scan) : (s.shift n).stop = s.stop.shift n := by
  simp [stop, Scan.shift, Token.shift]
  omega

theorem tokens_shift (s : Scan) : (s.shift n).tokens = s.tokens.map (·.shift n) := by
  refine tokens_induction (motive := fun s ts => (s.shift n).tokens = ts.map (·.shift n))
    ?stop ?step s
  case stop =>
    intro s h
    rw [h.shift.tokens_eq, stop_shift]
    rfl
  case step =>
    intro s t s' h hi
    rw [h.shift.tokens_eq, hi]
    rfl

namespace Steps

theorem replace (h : Steps s ts s') (hl : ∀ t ∈ ts.getLast?, t.EndsBefore cs.head?) :
    Steps { s with rest := (join ts).toList ++ cs } ts { s' with rest := cs } := by
  cases ts.eq_nil_or_concat'
  case inl hn =>
    subst hn
    cases h
    exact .refl
  case inr hc =>
    obtain ⟨us, t, rfl⟩ := hc
    have ⟨s₁, hs, h⟩ := h.exists_last_step
    have he : t.EndsBefore cs.head? := hl t (by simp)
    have hh : (t.text.toList ++ cs).head? = s₁.rest.head? := by
      by_cases ht : t.text = ""
      case pos =>
        have ⟨hk, hm⟩ := h.unclosed_of_text_eq_empty ht
        simp [ht, h.rest, he.unclosed hk hm, h.ends.unclosed hk hm]
      case neg =>
        have ⟨c, _, ht⟩ := List.exists_cons_of_ne_nil <| mt String.toList_eq_nil_iff.mp ht
        simp [h.rest, ht]
    simpa [join_append, join_cons, join_nil] using (hs.transfer hh).append (.single <| h.replace he)

end Steps

theorem exists_steps_ofLine (line : String) :
    ∃ s, Steps (ofLine line) (tokenize line).dropLast s ∧ s.AtEnd ∧
      join (tokenize line).dropLast = line ∧ s.pos = line.length := by
  have ⟨s, h, he⟩ := (ofLine line).exists_steps_atEnd
  have hr : line.toList = (join (tokenize line).dropLast).toList ++ s.rest := h.rest
  have hj : join (tokenize line).dropLast = line :=
    String.toList_injective <| by simp [hr, he.rest]
  have hp : s.pos = 0 + (join (tokenize line).dropLast).length := h.pos
  exact ⟨s, h, he, hj, by rw [hp, hj, Nat.zero_add]⟩

theorem tokenize_append_of_endsBefore
    (h : ∀ t ∈ (tokenize line).dropLast.getLast?, t.EndsBefore text.toList.head?) :
    tokenize (line ++ text) =
    (tokenize line).dropLast ++ (tokenize text).map (·.shift line.length) := by
  have ⟨s, hs, he, hj, hp⟩ := exists_steps_ofLine line
  have hs := hs.replace h |>.tokens_eq
  have hb : s.inBraces = false := by simpa using he.outside
  have ht : { s with rest := text.toList } = (ofLine text).shift line.length := by
    simp [ofLine, Scan.shift, hp, hb]
  rw [ht, tokens_shift, hj, ← String.toList_append] at hs
  exact hs

theorem endsBefore_of_tokenize_append
    (h : tokenize (line ++ text) =
      (tokenize line).dropLast ++ (tokenize text).map (·.shift line.length)) :
    ∀ t ∈ (tokenize line).dropLast.getLast?, t.EndsBefore text.toList.head? := by
  have ⟨_, _, _, hj, _⟩ := exists_steps_ofLine line
  have hn : (tokenize text).map (·.shift line.length) ≠ [] := by simp [tokenize, tokens_eq]
  have hb : (tokenize (line ++ text)).dropLast = (tokenize line).dropLast ++ _ :=
    h ▸ List.dropLast_append_of_ne_nil hn
  have ⟨s, hs, _⟩ := body_eq_append_iff.mp hb
  have hr : (line ++ text).toList = (join (tokenize line).dropLast).toList ++ s.rest := hs.rest
  rw [hj, String.toList_append] at hr
  intro t ht
  have ⟨_, h⟩ := hs.exists_step_of_mem_getLast? ht
  exact List.append_cancel_left hr ▸ h.ends

-- The tokens of two texts that are put together are the tokens of the one and then the tokens of
-- the other, unless the last token of the first text goes on.
theorem tokenize_append_iff (line : String) {text : String} (h : text ≠ "") :
    tokenize (line ++ text) =
      (tokenize line).dropLast ++ (tokenize text).map (·.shift line.length) ↔
    ∀ t ∈ (tokenize line).dropLast.getLast?, ∀ c ∈ text.toList.head?, ¬t.GoesOn c := by
  have ⟨c, cs, hc⟩ := List.exists_cons_of_ne_nil <| mt String.toList_eq_nil_iff.mp h
  have ⟨s, hs, hend, _⟩ := exists_steps_ofLine line
  have he : ∀ t ∈ (tokenize line).dropLast.getLast?,
      t.EndsBefore text.toList.head? ↔ ∀ c ∈ text.toList.head?, ¬t.GoesOn c := by
    intro t ht
    have ⟨_, h⟩ := hs.exists_step_of_mem_getLast? ht
    simpa [hc] using endsBefore_some_iff h.ends.not_eof (h.malformed_of_rest_eq_nil hend.rest)
  constructor
  case mp  => exact fun h t ht => he t ht |>.mp <| endsBefore_of_tokenize_append h t ht
  case mpr => exact fun h => tokenize_append_of_endsBefore fun t ht => he t ht |>.mpr <| h t ht

theorem tokenize_append_colon : ":" ≠ "" ∧
    tokenize ("::" ++ ":") = (tokenize "::").dropLast ++ (tokenize ":").map (·.shift 2) ∧
    tokenize (":" ++ ":") ≠ (tokenize ":").dropLast ++ (tokenize ":").map (·.shift 1) := by
  have h : ":" ≠ "" := by decide
  have h₁ : (tokenize ":").dropLast = [⟨.colon, ":", 0, false⟩] := by cbv
  have h₂ : (tokenize "::").dropLast = [⟨.doubleColon, "::", 0, false⟩] := by cbv
  refine ⟨h, tokenize_append_iff "::" h |>.mpr ?_, mt (tokenize_append_iff ":" h).mp ?_⟩
  case refine_1 => simp [h₂, GoesOn]
  case refine_2 => simp [h₁, GoesOn]

theorem dropLast_tokenize_isPrefix (line text : String) :
    (tokenize line).dropLast.dropLast <+: tokenize (line ++ text) := by
  obtain ⟨s, hs, _, hj, _⟩ := exists_steps_ofLine line
  cases (tokenize line).dropLast.eq_nil_or_concat'
  case inl hn => simp [hn]
  case inr hc =>
    obtain ⟨ts, u, hts⟩ := hc
    rw [hts, List.dropLast_concat]
    rw [hts] at hs hj
    obtain ⟨s₁, hs, hu⟩ := hs.exists_last_step
    have he : ∀ t ∈ ts.getLast?, t.EndsBefore (u.text.toList ++ text.toList).head? := by
      intro t ht
      obtain ⟨_, h⟩ := hs.exists_step_of_mem_getLast? ht
      exact h.endsBefore_append hu
    have hr : (join ts).toList ++ (u.text.toList ++ text.toList) = (line ++ text).toList := by
      simp [← hj, join_append, join_cons, join_nil]
    have hs := hs.replace he |>.tokens_eq
    rw [hr] at hs
    exact ⟨_, hs.symm⟩

end Scan

end BuildShell
