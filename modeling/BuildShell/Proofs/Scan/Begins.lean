import BuildShell.Proofs.Scan.Steps
import BuildShell.Proofs.Segment

namespace BuildShell

open Text Token

namespace Kind

-- The kind of the token that begins with a character, outside of braces. The character after it
-- matters only for a colon.
def first (c : Char) (next? : Option Char) : Kind :=
  if isBlank c then whitespace
  else if Identifier.isStart c then identifier
  else if c = ':' ∧ next? = some ':' then doubleColon
  else ofChar c

variable {c : Char} {next? : Option Char}

theorem first_eq_whitespace_iff : first c next? = whitespace ↔ isBlank c := by
  unfold first ofChar
  grind

theorem first_eq_identifier_iff : first c next? = identifier ↔ Identifier.isStart c := by
  unfold first ofChar
  grind [Identifier.isStart_of_isBlank]

theorem first_eq_of_mem_marks (hc : c ∈ Identifier.marks) :
    first c next? = if c = ':' ∧ next? = some ':' then doubleColon else ofChar c := by
  simp [first, Identifier.isBlank_of_mem_marks hc, Identifier.isStart_of_mem_marks hc]

theorem first_eq_slash_iff : first c next? = slash ↔ c = '/' where
  mp h  := by
    unfold first ofChar at h
    grind
  mpr h := by
    subst h
    exact first_eq_of_mem_marks Identifier.slash_mem_marks

theorem first_eq_leftBrace_iff : first c next? = leftBrace ↔ c = '{' where
  mp h  := by
    unfold first ofChar at h
    grind
  mpr h := by
    subst h
    exact first_eq_of_mem_marks Identifier.leftBrace_mem_marks

theorem first_eq_colon_iff : first c next? = colon ↔ (c = ':' ∧ next? ≠ some ':') where
  mp h := by
    unfold first ofChar at h
    grind
  mpr := by
    rintro ⟨rfl, hn⟩
    rw [first_eq_of_mem_marks Identifier.colon_mem_marks]
    simp [hn, ofChar]

theorem first_eq_doubleColon_iff :
    first c next? = doubleColon ↔ (c = ':' ∧ next? = some ':') where
  mp h := by
    unfold first ofChar at h
    grind
  mpr := by
    rintro ⟨rfl, hn⟩
    rw [first_eq_of_mem_marks Identifier.colon_mem_marks]
    simp [hn]

end Kind

namespace Scan

variable {s s' : Scan} {t : Token} {k : Kind} {kinds : List Kind} {c : Char} {cs : List Char}

theorem Step.kind_eq (h : s.Step t s') (hb : ¬s.inBraces) (hr : s.rest = c :: cs) :
    t.kind = .first c cs.head? := by
  have h := h.next_eq
  rw [next, if_neg hb, hr] at h
  simp only at h
  unfold Kind.first
  split at h
  case isTrue hc =>
    cases h
    rw [if_pos hc]
  case isFalse hc =>
    rw [if_neg hc]
    split at h
    case isTrue hs =>
      cases h
      rw [if_pos hs]
    case isFalse hs =>
      rw [if_neg hs]
      split at h <;> cases h
      case h_1    => simp
      case h_2 hn =>
        refine (if_neg ?_).symm
        rintro ⟨hc, hh⟩
        obtain ⟨_, hcs⟩ := List.head?_eq_some_iff.mp hh
        exact hn _ hc hcs

theorem begins_body_iff :
    Begins (k :: kinds) s.body ↔ ∃ t s', s.Step t s' ∧ t.kind = k ∧ Begins kinds s'.body where
  mp h := by
    cases s.atEnd_or_exists_step
    case inl he =>
      rw [he.body_eq] at h
      exact absurd h not_begins_nil
    case inr hs =>
      have ⟨t, s', hs⟩ := hs
      rw [hs.body_eq, begins_cons] at h
      exact ⟨t, s', hs, h⟩
  mpr := by
    intro ⟨t, s', hs, h⟩
    rw [hs.body_eq, begins_cons]
    exact h

theorem exists_cons_of_step (h : s.Step t s') (hb : ¬s.inBraces) : ∃ c cs, s.rest = c :: cs :=
  List.exists_cons_of_ne_nil fun hr => h.not_atEnd ⟨hr, hb⟩

theorem exists_step_of_cons (hr : s.rest = c :: cs) : ∃ t s', s.Step t s' :=
  s.atEnd_or_exists_step.resolve_left fun he => by simp [he.rest] at hr

theorem begins_body_iff_first (hb : ¬s.inBraces) :
    Begins [k] s.body ↔ ∃ c cs, s.rest = c :: cs ∧ Kind.first c cs.head? = k := by
  rw [begins_body_iff]
  constructor
  case mp =>
    intro ⟨t, s', hs, hk, _⟩
    have ⟨c, cs, hr⟩ := exists_cons_of_step hs hb
    exact ⟨c, cs, hr, hs.kind_eq hb hr ▸ hk⟩
  case mpr =>
    intro ⟨c, cs, hr, hk⟩
    have ⟨t, s', hs⟩ := exists_step_of_cons hr
    exact ⟨t, s', hs, hs.kind_eq hb hr ▸ hk, begins_nil⟩

theorem begins_whitespace_iff (hb : ¬s.inBraces) :
    Begins [.whitespace] s.body ↔ ∃ c ∈ s.rest.head?, isBlank c := by
  simp [begins_body_iff_first hb, Kind.first_eq_whitespace_iff, List.head?_eq_some_iff]

theorem begins_identifier_iff (hb : ¬s.inBraces) :
    Begins [.identifier] s.body ↔ ∃ c ∈ s.rest.head?, Identifier.isStart c := by
  simp [begins_body_iff_first hb, Kind.first_eq_identifier_iff, List.head?_eq_some_iff]

theorem begins_slash_iff (hb : ¬s.inBraces) : Begins [.slash] s.body ↔ s.rest.head? = some '/' := by
  simp [begins_body_iff_first hb, Kind.first_eq_slash_iff, List.head?_eq_some_iff]

theorem begins_leftBrace_iff (hb : ¬s.inBraces) :
    Begins [.leftBrace] s.body ↔ s.rest.head? = some '{' := by
  simp [begins_body_iff_first hb, Kind.first_eq_leftBrace_iff, List.head?_eq_some_iff]

theorem begins_colon_iff (hb : ¬s.inBraces) :
    Begins [.colon] s.body ↔ ∃ cs, s.rest = ':' :: cs ∧ cs.head? ≠ some ':' := by
  simp [begins_body_iff_first hb, Kind.first_eq_colon_iff]

theorem Step.rest_of_doubleColon (h : s.Step t s') (hk : t.kind = .doubleColon) :
    s.rest = ':' :: ':' :: s'.rest ∧ ¬s'.inBraces := by
  have ht : t.text = "::" := by simpa [hk, Kind.Spells] using h.spells
  exact ⟨by simp [h.rest, ht], by simp [h.braces, hk]⟩

theorem begins_doubleColon_identifier_iff (hb : ¬s.inBraces) :
    Begins [.doubleColon, .identifier] s.body ↔
    ∃ c cs, s.rest = ':' :: ':' :: c :: cs ∧ Identifier.isStart c := by
  rw [begins_body_iff]
  constructor
  case mp =>
    intro ⟨t, s', hs, hk, hi⟩
    have ⟨hr, hb⟩ := hs.rest_of_doubleColon hk
    have ⟨c, hc, hi⟩ := begins_identifier_iff hb |>.mp hi
    have ⟨cs, hcs⟩ := List.head?_eq_some_iff.mp hc
    exact ⟨c, cs, by rw [hr, hcs], hi⟩
  case mpr =>
    intro ⟨c, cs, hr, hi⟩
    have ⟨t, s', hs⟩ := exists_step_of_cons hr
    have hk : t.kind = .doubleColon := by
      rw [hs.kind_eq hb hr, Kind.first_eq_doubleColon_iff]
      exact ⟨rfl, rfl⟩
    have ⟨hr', hb⟩ := hs.rest_of_doubleColon hk
    refine ⟨t, s', hs, hk, begins_identifier_iff hb |>.mpr ⟨c, ?_, hi⟩⟩
    have hr' : s'.rest = c :: cs := by simpa [hr] using hr'.symm
    simp [hr']

theorem step_unique {t' : Token} {s'' : Scan} (h : s.Step t s') (h' : s.Step t' s'') : t = t' := by
  have h := h.next_eq.symm.trans h'.next_eq
  exact congrArg Prod.fst h

theorem begins_uriBody_iff (hb : s.inBraces) :
    Begins [.uriBody] s.body ↔ s.rest.head? ≠ some '}' := by
  rw [begins_body_iff]
  constructor
  case mp =>
    intro ⟨t, s', hs, hk, _⟩ hc
    have ⟨cs, hr⟩ := List.head?_eq_some_iff.mp hc
    simp [step_unique hs (step_rightBrace hr)] at hk
  case mpr =>
    intro hc
    cases s.atEnd_or_exists_step
    case inl he => exact absurd hb he.outside
    case inr hs =>
      have ⟨t, s', hs⟩ := hs
      refine ⟨t, s', hs, (hs.inside hb).resolve_right fun hk => hc ?_, begins_nil⟩
      have ht : t.text = "\x7d" := by simpa only [hk, Kind.Spells] using hs.spells
      simp [hs.rest, ht]

end Scan

end BuildShell
