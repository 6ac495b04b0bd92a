import BuildShell.Proofs.Text
import BuildShell.Scan
import Mathlib.Data.List.Chain

namespace BuildShell

open Text

namespace Kind

def Spells : Kind → String → Prop
  | identifier,  s => Identifier.Valid s
  | slash,       s => s = "/"
  | colon,       s => s = ":"
  | doubleColon, s => s = "::"
  | leftBrace,   s => s = "\x7b"
  | rightBrace,  s => s = "\x7d"
  | uriBody,     s => '}' ∉ s.toList
  | whitespace,  s => s ≠ "" ∧ ∀ c ∈ s.toList, isBlank c
  | other,       s =>
    ∃ c, s.toList = [c] ∧ ¬isBlank c ∧ ¬Identifier.isStart c ∧ c ∉ Identifier.marks
  | eof,         s => s = ""

theorem ofChar_eq_other {c : Char} (h : c ∉ Identifier.marks) : ofChar c = other := by
  simp only [Identifier.marks, List.mem_cons, not_or] at h
  simp [ofChar, h]

theorem ofChar_cases (c : Char) :
    (c = '/' ∧ ofChar c = slash) ∨ (c = ':' ∧ ofChar c = colon) ∨ (c = '{' ∧ ofChar c = leftBrace) ∨
    (c = '}' ∧ ofChar c = rightBrace) ∨ (c ∉ Identifier.marks ∧ ofChar c = other) := by
  by_cases h : c ∈ Identifier.marks
  case pos =>
    simp only [Identifier.marks, List.mem_cons, List.not_mem_nil, or_false] at h
    obtain rfl | rfl | rfl | rfl := h <;> simp [ofChar]
  case neg => simp [h, ofChar_eq_other h]

end Kind

def Token.EndsBefore (t : Token) (next? : Option Char) : Prop :=
  match t.kind with
  | .identifier => ∀ c ∈ next?, ¬Identifier.isPart c
  | .whitespace => ∀ c ∈ next?, ¬isBlank c
  | .colon      => next? ≠ some ':'
  | .uriBody    => if t.malformed then next? = none else t.text ≠ "" ∧ next? = some '}'
  | .eof        => False
  | _           => True

namespace Token.EndsBefore

variable {t : Token} {next? : Option Char}

theorem identifier (h : t.EndsBefore next?) (hk : t.kind = .identifier) :
    ∀ c ∈ next?, ¬Identifier.isPart c := by
  simpa only [EndsBefore, hk] using h

theorem whitespace (h : t.EndsBefore next?) (hk : t.kind = .whitespace) :
    ∀ c ∈ next?, ¬isBlank c := by
  simpa only [EndsBefore, hk] using h

theorem colon (h : t.EndsBefore next?) (hk : t.kind = .colon) : next? ≠ some ':' := by
  simpa only [EndsBefore, hk] using h

theorem unclosed (h : t.EndsBefore next?) (hk : t.kind = .uriBody) (hm : t.malformed) :
    next? = none := by
  simpa only [EndsBefore, hk, hm, if_true] using h

theorem closed (h : t.EndsBefore next?) (hk : t.kind = .uriBody) (hm : ¬t.malformed) :
    t.text ≠ "" ∧ next? = some '}' := by
  simpa only [EndsBefore, hk, if_neg hm] using h

theorem not_eof (h : t.EndsBefore next?) : t.kind ≠ .eof :=
  fun hk => by simp only [EndsBefore, hk] at h

end Token.EndsBefore

namespace Scan

-- What a scan does with one token, without regard to how the token is found: its text comes off the
-- line, and it reaches as far as a token of its kind can. Between braces stands the body of a URI,
-- unless the closing brace follows at once.
structure Step (s : Scan) (t : Token) (s' : Scan) : Prop where
  start   : t.start = s.pos
  flag    : t.malformed → t.kind = .uriBody
  spells  : t.kind.Spells t.text
  ends    : t.EndsBefore s'.rest.head?
  inside  : s.inBraces → t.kind = .uriBody ∨ t.kind = .rightBrace
  outside : t.kind = .uriBody → s.inBraces
  rest    : s.rest = t.text.toList ++ s'.rest
  pos     : s'.pos = s.pos + t.text.length
  braces  : s'.inBraces = decide (t.kind = .leftBrace)

variable {s s' : Scan} {t : Token} {c : Char} {text cs : List Char}

theorem step_outside {kind : Kind} (hb : ¬s.inBraces) (hr : s.rest = text ++ cs)
    (hk : kind ≠ .uriBody) (hs : kind.Spells (.ofList text))
    (he : Token.EndsBefore ⟨kind, .ofList text, s.pos, false⟩ cs.head?) :
    s.Step ⟨kind, .ofList text, s.pos, false⟩ ⟨s.pos + text.length, cs, kind = .leftBrace⟩ where
  start     := rfl
  flag h    := nomatch h
  spells    := hs
  ends      := he
  inside h  := absurd h hb
  outside h := absurd h hk
  rest      := by simpa using hr
  pos       := by simp
  braces    := rfl

theorem step_uriBody (hb : s.inBraces) (hr : s.rest = text ++ cs) (ht : '}' ∉ text)
    (he : Token.EndsBefore ⟨.uriBody, .ofList text, s.pos, cs.isEmpty⟩ cs.head?) :
    s.Step ⟨.uriBody, .ofList text, s.pos, cs.isEmpty⟩ ⟨s.pos + text.length, cs, false⟩ where
  start     := rfl
  flag _    := rfl
  spells    := by simpa [Kind.Spells] using ht
  ends      := he
  inside _  := .inl rfl
  outside _ := hb
  rest      := by simpa using hr
  pos       := by simp
  braces    := rfl

theorem step_rightBrace (hr : s.rest = '}' :: cs) :
    s.Step ⟨.rightBrace, .ofList ['}'], s.pos, false⟩ ⟨s.pos + 1, cs, false⟩ where
  start     := rfl
  flag h    := nomatch h
  spells    := rfl
  ends      := trivial
  inside _  := .inr rfl
  outside h := nomatch h
  rest      := by simpa using hr
  pos       := by rw [String.length_ofList]; rfl
  braces    := rfl

theorem step_leftBrace (hb : ¬s.inBraces) (hr : s.rest = '{' :: cs) :
    s.Step ⟨.leftBrace, .ofList ['{'], s.pos, false⟩ ⟨s.pos + 1, cs, true⟩ :=
  have hr : s.rest = ['{'] ++ cs := hr
  step_outside hb hr (by simp) rfl trivial

theorem step_ofChar (hb : ¬s.inBraces) (hr : s.rest = c :: cs) (hc : ¬isBlank c)
    (hs : ¬Identifier.isStart c) (hn : c = ':' → cs.head? ≠ some ':') :
    s.Step ⟨.ofChar c, .ofList [c], s.pos, false⟩ ⟨s.pos + 1, cs, Kind.ofChar c = .leftBrace⟩ := by
  obtain ⟨rfl, h⟩ | ⟨rfl, h⟩ | ⟨rfl, h⟩ | ⟨rfl, h⟩ | ⟨hm, h⟩ := Kind.ofChar_cases c <;> rw [h]
  case inr.inl => exact step_outside hb hr (by simp) rfl (hn rfl)
  case inr.inr.inr.inr =>
    exact step_outside hb hr (by simp) ⟨c, String.toList_ofList, hc, hs, hm⟩ trivial
  all_goals exact step_outside hb hr (by simp) rfl trivial

theorem step_of_nextInBraces (hb : s.inBraces) (h : s.nextInBraces = (t, some s')) :
    s.Step t s' := by
  unfold nextInBraces at h
  split at h <;> cases h
  case h_1 brace cs hd ht =>
    have ⟨hr, _, hh⟩ := run_iff _ _ |>.mp ⟨hd, ht⟩
    obtain rfl : brace = '}' := by simpa using hh
    exact step_rightBrace hr
  case h_2 hn =>
    have ⟨hr, ht, hh⟩ := run_iff (· ≠ '}') s.rest |>.mp ⟨rfl, rfl⟩
    refine step_uriBody hb hr (by simpa using (ht '}' ·)) ?_
    revert hn hh
    generalize s.rest.takeWhile (· ≠ '}') = body, s.rest.dropWhile (· ≠ '}') = cs
    intro hn hh
    cases cs
    case nil       => simp [Token.EndsBefore]
    case cons c cs =>
      obtain rfl : c = '}' := by simpa using hh
      simpa [Token.EndsBefore] using fun hb => hn _ _ hb rfl

theorem step_of_next (h : s.next = (t, some s')) : s.Step t s' := by
  unfold next at h
  split at h
  case isTrue hb => exact step_of_nextInBraces hb h
  case isFalse hb =>
    split at h
    case h_1 => cases h
    case h_2 c cs hr =>
      split at h
      case isTrue hc =>
        obtain ⟨hcs, ht, hh⟩ := run_iff isBlank cs |>.mp ⟨rfl, rfl⟩
        cases h
        refine step_outside hb (hr.trans <| congrArg _ hcs) (by simp) ?_ hh
        simpa [Kind.Spells, hc] using ht
      case isFalse hc =>
        split at h
        case isTrue hs =>
          obtain ⟨hcs, ht, hh⟩ := run_iff Identifier.isPart cs |>.mp ⟨rfl, rfl⟩
          cases h
          refine step_outside hb (hr.trans <| congrArg _ hcs) (by simp) ?_ hh
          exact ⟨c, _, String.toList_ofList, hs, ht⟩
        case isFalse hs =>
          split at h <;> cases h
          case h_1    => exact step_outside hb hr (by simp) rfl trivial
          case h_2 hn =>
            refine step_ofChar hb hr hc hs fun hc hh => ?_
            obtain ⟨_, hcs⟩ := List.head?_eq_some_iff.mp hh
            exact hn _ hc hcs

theorem Step.take_eq (h : s.Step t s') :
    s.take t.kind t.text.toList s'.rest t.malformed = (t, some s') := by
  obtain ⟨_, _, _, _⟩ := t
  obtain ⟨_, _, _⟩ := s'
  have hs := h.start
  have hp := h.pos
  have hb := h.braces
  simp_all [take, String.length_toList]

theorem Step.nextInBraces_eq (h : s.Step t s') (hb : s.inBraces) :
    s.nextInBraces = (t, some s') := by
  have hr := h.rest
  have hs := h.spells
  have he := h.ends
  rw [← h.take_eq]
  cases h.inside hb
  case inl hk =>
    simp only [hk, Kind.Spells, Token.EndsBefore] at hs he ⊢
    have hn : ∀ c ∈ t.text.toList, decide (c ≠ '}') := by
      simpa using fun c hc (he : c = '}') => hs (he ▸ hc)
    cases hm : t.malformed <;> simp only [hm, ↓reduceIte, Bool.false_eq_true] at he
    case false =>
      obtain ⟨ht, cs, hcs⟩ : t.text.toList ≠ [] ∧ ∃ cs, s'.rest = '}' :: cs := by
        simpa [List.head?_eq_some_iff] using he
      have ⟨ht, hd⟩ := run_iff _ _ |>.mpr ⟨hr, hn, by simp [hcs]⟩
      rw [nextInBraces, ht, hd]
      split
      case h_1 => contradiction
      case h_2 => simp [hcs]
    case true =>
      have hcs := List.head?_eq_none_iff.mp he
      have ⟨ht, hd⟩ := run_iff _ _ |>.mpr ⟨hr, hn, by simp [hcs]⟩
      rw [nextInBraces, ht, hd, hcs]
      split
      case h_1 => contradiction
      case h_2 => rfl
  case inr hk =>
    have hm : t.malformed = false := by simpa [hk] using h.flag
    simp only [hk, Kind.Spells] at hs
    simp [nextInBraces, hr, hs, hk, hm]

theorem next_eq_take_ofChar (hb : ¬s.inBraces) (hr : s.rest = c :: cs) (hc : ¬isBlank c)
    (hs : ¬Identifier.isStart c) (hn : c = ':' → cs.head? ≠ some ':') :
    s.next = s.take (.ofChar c) [c] cs := by
  rw [next, if_neg hb, hr]
  simp only [if_neg hc, if_neg hs]
  split
  case h_1 => simp at hn
  case h_2 => rfl

theorem next_eq_take_mark (hb : ¬s.inBraces) (hr : s.rest = c :: cs) (hc : c ∈ Identifier.marks)
    (hn : c = ':' → cs.head? ≠ some ':') : s.next = s.take (.ofChar c) [c] cs := by
  refine next_eq_take_ofChar hb hr ?_ ?_ hn
  case refine_1 => simp [Identifier.isBlank_of_mem_marks hc]
  case refine_2 => simp [Identifier.isStart_of_mem_marks hc]

theorem Step.next_eq (h : s.Step t s') : s.next = (t, some s') := by
  by_cases hb : s.inBraces
  case pos => simpa [next, hb] using h.nextInBraces_eq hb
  case neg =>
    have hr := h.rest
    have hs := h.spells
    have he := h.ends
    have hk := mt h.outside hb
    have hm := Bool.eq_false_iff.mpr (mt h.flag hk)
    rw [← h.take_eq, hm]
    -- A run of characters is as long as it can be, and all other tokens are told by their text.
    cases hk : t.kind <;> simp only [hk, Kind.Spells, Token.EndsBefore] at hs he ⊢
    case identifier =>
      obtain ⟨c, cs, hcs, hc, hp⟩ := hs
      have ⟨ht, hd⟩ := run_iff _ _ |>.mpr ⟨rfl, hp, he⟩
      simp [next, hb, hr, hcs, Identifier.isBlank_of_isStart hc, hc, ht, hd]
    case whitespace =>
      obtain ⟨c, cs, hcs⟩ := List.exists_cons_of_ne_nil (mt String.toList_eq_nil_iff.mp hs.left)
      have ⟨hc, hp⟩ := List.forall_mem_cons.mp (hcs ▸ hs.right)
      have ⟨ht, hd⟩ := run_iff _ _ |>.mpr ⟨rfl, hp, he⟩
      simp [next, hb, hr, hcs, hc, ht, hd]
    case doubleColon =>
      have hc := Identifier.isBlank_of_mem_marks Identifier.colon_mem_marks
      have hi := Identifier.isStart_of_mem_marks Identifier.colon_mem_marks
      simp [next, hb, hr, hs, hc, hi]
    case other =>
      obtain ⟨c, hcs, hc, hi, hm⟩ := hs
      rw [hcs] at hr ⊢
      have hn : c = ':' → s'.rest.head? ≠ some ':' := by rintro rfl; simp [Identifier.marks] at hm
      exact Kind.ofChar_eq_other hm ▸ next_eq_take_ofChar hb hr hc hi hn
    case uriBody => contradiction
    case slash =>
      rw [hs] at hr ⊢
      exact next_eq_take_mark (c := '/') hb hr Identifier.slash_mem_marks (by simp)
    case colon =>
      rw [hs] at hr ⊢
      exact next_eq_take_mark hb hr Identifier.colon_mem_marks (fun _ => he)
    case leftBrace =>
      rw [hs] at hr ⊢
      exact next_eq_take_mark (c := '{') hb hr Identifier.leftBrace_mem_marks (by simp)
    case rightBrace =>
      rw [hs] at hr ⊢
      exact next_eq_take_mark (c := '}') hb hr Identifier.rightBrace_mem_marks (by simp)

theorem next_eq_some_iff : s.next = (t, some s') ↔ s.Step t s' where
  mp  := step_of_next
  mpr := Step.next_eq

theorem next_eq_none_iff :
    s.next = (t, none) ↔ (¬s.inBraces ∧ s.rest = [] ∧ t = ⟨.eof, "", s.pos, false⟩) := by
  unfold next nextInBraces take
  grind

end Scan

end BuildShell
