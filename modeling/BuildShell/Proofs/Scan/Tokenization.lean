import BuildShell.Proofs.Scan.Steps

namespace BuildShell

open Text

namespace Token

-- What comes after an opening brace: a closing one, or the body of a URI with the closing brace
-- after it, or a body that is not closed and reaches the end of the line.
inductive Enclosed : List Token → Prop
  | empty {closing ts} : closing.kind = .rightBrace → Enclosed (closing :: ts)
  | closed {body closing ts} :
    body.kind = .uriBody → ¬body.malformed → body.text ≠ "" → closing.kind = .rightBrace →
    Enclosed (body :: closing :: ts)
  | unclosed {body stop ts} :
    body.kind = .uriBody → body.malformed → stop.kind = .eof → Enclosed (body :: stop :: ts)

structure Apart (t u : Token) : Prop where
  identifier : t.kind = .identifier → ∀ c ∈ u.text.toList.head?, ¬Identifier.isPart c
  whitespace : t.kind = .whitespace → ∀ c ∈ u.text.toList.head?, ¬isBlank c
  colon      : t.kind = .colon → u.text.toList.head? ≠ some ':'

structure Lawful (ts : List Token) : Prop where
  tiles  : ts.IsChain fun t u => u.start = t.stop
  stop   : ∃ body stop, ts = body ++ [stop] ∧ stop.kind = .eof ∧ ∀ t ∈ body, t.kind ≠ .eof
  spells : ∀ t ∈ ts, t.kind.Spells t.text
  flag   : ∀ t ∈ ts, t.malformed → t.kind = .uriBody
  body   : ts.IsChain fun t u => u.kind = .uriBody → t.kind = .leftBrace
  braces : ∀ t us, t :: us <:+ ts → t.kind = .leftBrace → Enclosed us
  apart  : ts.IsChain Apart

namespace Lawful

variable {t u : Token} {ts us : List Token}

theorem eq_nil_iff (h : Lawful (t :: ts)) : ts = [] ↔ t.kind = .eof := by
  have ⟨body, stop, hts, hk, hb⟩ := h.stop
  cases body
  case nil =>
    have ⟨ht, hts⟩ : t = stop ∧ ts = [] := by simpa using hts
    simp [ht, hts, hk]
  case cons u body =>
    have ⟨ht, hts⟩ : t = u ∧ ts = body ++ [stop] := by simpa using hts
    simpa [ht, hts] using hb u List.mem_cons_self

theorem tail (h : Lawful (t :: ts)) (hk : t.kind ≠ .eof) : Lawful ts where
  tiles      := h.tiles.tail
  stop       := by
    have ⟨body, stop, hts, hs, hb⟩ := h.stop
    cases body
    case nil =>
      have ⟨ht, _⟩ : t = stop ∧ ts = [] := by simpa using hts
      exact absurd (ht ▸ hs) hk
    case cons u body =>
      have ⟨_, hts⟩ : t = u ∧ ts = body ++ [stop] := by simpa using hts
      exact ⟨body, stop, hts, hs, fun t ht => hb t <| List.mem_cons_of_mem _ ht⟩
  spells     := (List.forall_mem_cons.mp h.spells).right
  flag       := (List.forall_mem_cons.mp h.flag).right
  body       := h.body.tail
  braces u us hu := h.braces u us <| hu.trans (List.suffix_cons ..)
  apart      := h.apart.tail

theorem text_ne_empty (h : Lawful (t :: ts)) (he : t.kind ≠ .eof) (hb : t.kind ≠ .uriBody) :
    t.text ≠ "" := by
  intro ht
  have hs := h.spells t List.mem_cons_self
  cases hk : t.kind <;> simp_all [Kind.Spells, Identifier.Valid]

theorem head?_join (h : Lawful (t :: ts)) (hk : t.kind ≠ .leftBrace) {c : Char}
    (hc : c ∈ (join ts).toList.head?) : ∃ u ∈ ts.head?, c ∈ u.text.toList.head? := by
  cases ts
  case nil => simp [join_nil] at hc
  case cons u us =>
    refine ⟨u, rfl, ?_⟩
    have ht := h.tail <| mt h.eq_nil_iff.mpr (by simp)
    by_cases he : u.kind = .eof
    case pos =>
      have hus := ht.eq_nil_iff.mpr he
      simpa [hus, join_cons, join_nil] using hc
    case neg =>
      have hb : u.kind ≠ .uriBody := fun hu => hk <| (List.isChain_cons_cons.mp h.body).left hu
      have ⟨d, ds, hd⟩ := List.exists_cons_of_ne_nil <|
        mt String.toList_eq_nil_iff.mp (ht.text_ne_empty he hb)
      simpa [join_cons, hd] using hc

theorem endsBefore (h : Lawful (t :: ts)) (he : t.kind ≠ .eof)
    (hb : t.kind = .uriBody → Enclosed (t :: ts)) : t.EndsBefore (join ts).toList.head? := by
  have ha : t.kind ≠ .leftBrace → ∀ c ∈ (join ts).toList.head?,
      ∃ u, Apart t u ∧ c ∈ u.text.toList.head? := by
    intro hk c hc
    obtain ⟨u, hu, hc⟩ := h.head?_join hk hc
    exact ⟨u, (List.isChain_cons.mp h.apart).left u hu, hc⟩
  cases hk : t.kind <;> simp only [EndsBefore, hk]
  case identifier =>
    intro c hc
    obtain ⟨u, hu, hc⟩ := ha (by simp [hk]) c hc
    exact hu.identifier hk c hc
  case whitespace =>
    intro c hc
    obtain ⟨u, hu, hc⟩ := ha (by simp [hk]) c hc
    exact hu.whitespace hk c hc
  case colon =>
    intro hc
    obtain ⟨u, hu, hc⟩ := ha (by simp [hk]) _ hc
    exact hu.colon hk hc
  case uriBody =>
    -- Neighbours do not tell what comes after a body, since this can be the end of the line.
    have ht := h.tail he
    cases hb hk
    case empty hr => simp [hk] at hr
    case closed closing us hr _ hm ht' =>
      have hs := ht.spells closing List.mem_cons_self
      simp only [hr, Kind.Spells] at hs
      simp [hm, ht', join_cons, hs]
    case unclosed stop us hs _ hm =>
      have hus := ht.eq_nil_iff.mpr hs
      have hs' := ht.spells stop List.mem_cons_self
      simp only [hs, Kind.Spells] at hs'
      simp [hm, hus, join_cons, join_nil, hs']
  case eof => exact he hk

end Lawful

end Token

namespace Scan

open Token

variable {s s' : Scan} {t u : Token} {ts : List Token}

theorem eq_stop_or_step_of_mem_head? (h : t ∈ s.tokens.head?) :
    (s.AtEnd ∧ t = s.stop) ∨ ∃ s', s.Step t s' := by
  cases s.atEnd_or_exists_step
  case inl he =>
    rw [he.tokens_eq] at h
    exact .inl ⟨he, by simpa using h.symm⟩
  case inr hs =>
    have ⟨u, s', hs⟩ := hs
    rw [hs.tokens_eq] at h
    obtain rfl : u = t := by simpa using h
    exact .inr ⟨s', hs⟩

theorem start_of_mem_head? (h : t ∈ s.tokens.head?) : t.start = s.pos := by
  obtain ⟨he, rfl⟩ | ⟨s', hs⟩ := eq_stop_or_step_of_mem_head? h
  case inl => simp [stop, he.rest]
  case inr => exact hs.start

theorem inBraces_of_mem_head? (h : t ∈ s.tokens.head?) (hk : t.kind = .uriBody) : s.inBraces := by
  obtain ⟨he, rfl⟩ | ⟨s', hs⟩ := eq_stop_or_step_of_mem_head? h
  case inl => cases hk
  case inr => exact hs.outside hk

theorem head?_rest_of_mem_head? {c : Char} (h : t ∈ s.tokens.head?) (hc : c ∈ t.text.toList.head?) :
    c ∈ s.rest.head? := by
  obtain ⟨he, rfl⟩ | ⟨s', hs⟩ := eq_stop_or_step_of_mem_head? h
  case inl => simp [stop] at hc
  case inr => simp [hs.rest, Option.mem_def.mp hc]

theorem Step.apart (h : s.Step t s') (hu : u ∈ s'.tokens.head?) : Apart t u where
  identifier hk c hc := h.ends.identifier hk c (head?_rest_of_mem_head? hu hc)
  whitespace hk c hc := h.ends.whitespace hk c (head?_rest_of_mem_head? hu hc)
  colon hk hc        := h.ends.colon hk (head?_rest_of_mem_head? hu hc)

theorem enclosed_tokens (hb : s.inBraces) : Enclosed s.tokens := by
  cases s.atEnd_or_exists_step
  case inl he => exact absurd hb he.outside
  case inr h =>
    have ⟨t, s', h⟩ := h
    have he := h.ends
    rw [h.tokens_eq]
    cases h.inside hb
    case inr hk => exact .empty hk
    case inl hk =>
      by_cases hm : t.malformed
      case pos =>
        have hr := List.head?_eq_none_iff.mp (he.unclosed hk hm)
        have he : s'.AtEnd := ⟨hr, by simp [h.braces, hk]⟩
        exact he.tokens_eq ▸ .unclosed hk hm rfl
      case neg =>
        have ⟨ht, hr⟩ := he.closed hk hm
        have ⟨_, hr⟩ := List.head?_eq_some_iff.mp hr
        exact (step_rightBrace hr).tokens_eq ▸ .closed hk hm ht rfl

theorem lawful_stop (s : Scan) : Lawful [s.stop] where
  tiles  := .singleton _
  stop   := ⟨[], s.stop, rfl, rfl, by simp⟩
  spells := by simp [stop, Kind.Spells]
  flag   := by simp [stop]
  body   := .singleton _
  braces := by
    intro t us h hk
    obtain ⟨rfl, rfl⟩ : t = s.stop ∧ us = [] := by simpa [List.suffix_cons_iff] using h
    cases hk
  apart  := .singleton _

theorem Step.lawful (h : s.Step t s') (hl : Lawful s'.tokens) : Lawful (t :: s'.tokens) where
  tiles  := by
    refine List.isChain_cons.mpr ⟨fun u hu => ?_, hl.tiles⟩
    rw [start_of_mem_head? hu, h.pos, Token.stop, h.start]
    rfl
  stop   := by
    obtain ⟨body, stop, hs, hk, hb⟩ := hl.stop
    exact ⟨t :: body, stop, by rw [hs]; rfl, hk, List.forall_mem_cons.mpr ⟨h.ends.not_eof, hb⟩⟩
  spells := List.forall_mem_cons.mpr ⟨h.spells, hl.spells⟩
  flag   := List.forall_mem_cons.mpr ⟨h.flag, hl.flag⟩
  body   := by
    refine List.isChain_cons.mpr ⟨fun u hu hk => ?_, hl.body⟩
    simpa [h.braces] using inBraces_of_mem_head? hu hk
  braces := by
    intro u us hu hk
    cases List.suffix_cons_iff.mp hu
    case inl he =>
      cases he
      exact enclosed_tokens (by simp [h.braces, hk])
    case inr hs => exact hl.braces u us hs hk
  apart  := List.isChain_cons.mpr ⟨fun _ hu => h.apart hu, hl.apart⟩

theorem lawful_tokens (s : Scan) : Lawful s.tokens :=
  tokens_induction (motive := fun _ => Lawful) (fun _ => lawful_stop _) Step.lawful s

theorem tokens_eq_of_eof (hl : Lawful (t :: ts)) (he : t.kind = .eof)
    (hr : s.rest = (join (t :: ts)).toList) (hs : t.start = s.pos)
    (hi : s.inBraces → Enclosed (t :: ts)) : s.tokens = t :: ts := by
  have hts := hl.eq_nil_iff.mpr he
  have ht : t.text = "" := by simpa [he, Kind.Spells] using hl.spells t List.mem_cons_self
  have hm := mt (hl.flag t List.mem_cons_self) (by simp [he])
  have hr : s.rest = [] := by simpa [hts, join_cons, join_nil, ht] using hr
  have hb : ¬s.inBraces := by
    intro hb
    cases hi hb <;> simp_all
  rw [AtEnd.tokens_eq ⟨hr, hb⟩]
  cases t
  simp_all [stop]

theorem step_of_lawful (hl : Lawful (t :: ts)) (he : t.kind ≠ .eof)
    (hr : s.rest = (join (t :: ts)).toList) (hs : t.start = s.pos)
    (ho : t.kind = .uriBody → s.inBraces) (hi : s.inBraces → Enclosed (t :: ts)) :
    s.Step t ⟨s.pos + t.text.length, (join ts).toList, t.kind = .leftBrace⟩ where
  start   := hs
  flag    := hl.flag t List.mem_cons_self
  spells  := hl.spells t List.mem_cons_self
  ends    := hl.endsBefore he fun hk => hi (ho hk)
  outside := ho
  rest    := by simp [hr, join_cons]
  pos     := rfl
  braces  := rfl
  inside  := by
    intro hb
    cases hi hb <;> simp_all

-- The rules leave no choice: they determine the tokens.
theorem tokens_eq_of_lawful (hl : Lawful ts) (hr : s.rest = (join ts).toList)
    (hs : ∀ t ∈ ts.head?, t.start = s.pos) (ho : ∀ t ∈ ts.head?, t.kind = .uriBody → s.inBraces)
    (hi : s.inBraces → Enclosed ts) : s.tokens = ts := by
  induction ts generalizing s
  case nil =>
    have ⟨_, _, h, _⟩ := hl.stop
    simp at h
  case cons t ts ih =>
    have hs := hs t rfl
    by_cases he : t.kind = .eof
    case pos => exact tokens_eq_of_eof hl he hr hs hi
    case neg =>
      -- The rules hold of the tail as well, and they say what a scan knows of it: where it begins,
      -- and whether this is between braces.
      rw [step_of_lawful hl he hr hs (ho t rfl) hi |>.tokens_eq]
      congr 1
      apply ih (hl.tail he) rfl
      case hs =>
        intro u hu
        have := (List.isChain_cons.mp hl.tiles).left u hu
        simp [this, Token.stop, hs]
      case ho =>
        intro u hu hk
        simpa using (List.isChain_cons.mp hl.body).left u hu hk
      case hi =>
        intro hb
        exact hl.braces t ts List.suffix_rfl (by simpa using hb)

theorem join_tokenize (line : String) : join (tokenize line) = line := by
  have ⟨s, h, he⟩ := (ofLine line).exists_steps_atEnd
  have hr : line.toList = (join (ofLine line).body).toList ++ s.rest := h.rest
  rw [tokenize, tokens_eq, join_append, join_cons, join_nil]
  apply String.toList_injective
  simp [hr, he.rest, stop]

-- Being the tokens of a line is a matter of rules about single tokens and about neighbours.
theorem eq_tokenize_iff (line : String) (ts : List Token) :
    ts = tokenize line ↔
    (join ts = line ∧ (∀ t ∈ ts.head?, t.start = 0 ∧ t.kind ≠ .uriBody) ∧ Lawful ts) where
  mp := by
    rintro rfl
    refine ⟨join_tokenize line, fun t ht => ⟨start_of_mem_head? ht, fun hk => ?_⟩, lawful_tokens _⟩
    have hb : false = true := inBraces_of_mem_head? ht hk
    contradiction
  mpr := by
    rintro ⟨rfl, hh, hl⟩
    refine (tokens_eq_of_lawful hl rfl (fun t ht => (hh t ht).left) ?_ ?_).symm
    · exact fun t ht hk => absurd hk (hh t ht).right
    · nofun

end Scan

end BuildShell
