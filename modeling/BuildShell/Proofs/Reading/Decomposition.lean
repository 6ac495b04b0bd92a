import BuildShell.Proofs.Reading.Written
import BuildShell.Proofs.Scan.Begins

namespace BuildShell

open Text Token

namespace Scan

theorem join_body (s : Scan) : join s.body = .ofList s.rest := by
  have ⟨s', h, he⟩ := s.exists_steps_atEnd
  apply String.toList_injective
  simp [h.rest, he.rest]

theorem scanned_of_mem_body {s : Scan} {t : Token} (h : t ∈ s.body) : t.Scanned :=
  have ⟨_, hs, _⟩ := s.exists_steps_atEnd
  hs.exists_step_of_mem h

end Scan

namespace TokenLine

theorem ofText_eq (text : String) :
    ofText text = ⟨(Scan.ofLine text).body, (Scan.ofLine text).stop, rfl⟩ := by
  have h : (tokenize text).getLast? = some (Scan.ofLine text).stop := by
    rw [tokenize, Scan.tokens_eq, List.getLast?_concat]
  unfold ofText ofTokens
  split
  case h_1 hn => simp [h] at hn
  case h_2 t ht =>
    obtain rfl : t = (Scan.ofLine text).stop := by simpa [h] using ht.symm
    rfl

theorem ofText_body (text : String) : (ofText text).body = (Scan.ofLine text).body := by
  rw [ofText_eq]

theorem ofText_stop (text : String) : (ofText text).stop = (Scan.ofLine text).stop := by
  rw [ofText_eq]

end TokenLine

namespace Front.Valid

variable {f : Front} {key : Leaf} {intask? : Option Leaf} {span : Span} {r : String}

theorem decomposes (h : f.Valid) (hs : ∀ t ∈ f.tokens, t.Scanned)
    (hk : Identifier.Valid key.text) (hi : ∀ l ∈ intask?, Identifier.Valid l.text)
    (hr : (f.withKey key intask? span).StopsAt r) :
    ScopedKey.Decomposes (join f.tokens ++ (key.text ++ intask?.elim "" ("::" ++ ·.text) ++ r))
      (join f.leading) (f.withKey key intask? span) r where
  line_eq := by
    rw [h.join_tokens hs]
    simp [ScopedKey.render, Front.withKey, Front.render, String.append_assoc]
  blank := by
    simp only [tokens, List.forall_mem_append] at hs
    exact isBlank_of_mem_join h.leading hs.left
  valid := by
    simp only [tokens, List.forall_mem_append] at hs
    obtain ⟨_, hu, hp, hc⟩ := hs
    exact ⟨h.uri_valid hu, h.project.valid_before hp, h.config.valid_before hc, hk, hi⟩
  stops := hr

end Front.Valid

namespace Layout

def tokensToKey (y : Layout) : List Token :=
  y.toFront.tokens ++ y.key :: y.intask

variable {y : Layout} {s : Scan} {r : String}

theorem tokens_eq_append (y : Layout) : y.tokens = y.tokensToKey ++ y.trailing := by
  simp [tokens, tokensToKey]

theorem intask?_eq_none : y.scopedKey.intask? = none ↔ y.intask = [] := by
  simp [scopedKey, intask?]

theorem config?_eq_none : y.scopedKey.config? = none ↔ y.config = [] := by
  simp [scopedKey, Front.config?]

theorem project?_eq_none : y.scopedKey.project? = none ↔ y.project = [] := by
  simp [scopedKey, Front.project?]

theorem valid_of_stopsAt (hf : y.toFront.Valid) (hk : y.key.kind = .identifier)
    (hi : Segment [.doubleColon, .identifier] y.intask) (hs : s.Before r.toList)
    (ht : y.trailing = s.body) (hr : y.scopedKey.StopsAt r) : y.Valid where
  toValid := hf
  key     := hk
  intask  := hi
  noIntask hn := by
    rw [ht, Scan.begins_doubleColon_identifier_iff hs.outside, hs.rest]
    intro ⟨c, cs, hcs, hc⟩
    exact hr.intask (intask?_eq_none.mpr hn) c cs hcs hc
  noConfig hn hn' := by
    rw [ht, Scan.begins_colon_iff hs.outside, hs.rest]
    intro ⟨cs, hcs, hc⟩
    exact hc <| hr.config (intask?_eq_none.mpr hn) (config?_eq_none.mpr hn') cs hcs
  noProject hn hn' hn'' := by
    rw [ht, Scan.begins_slash_iff hs.outside, hs.rest]
    exact hr.project (intask?_eq_none.mpr hn) (config?_eq_none.mpr hn')
      (project?_eq_none.mpr hn'')

end Layout

namespace Layout.Valid

variable {y : Layout} {s : Scan}

theorem exists_last (h : y.Valid) :
    ∃ ts t, y.tokensToKey = ts ++ [t] ∧ t.kind = .identifier := by
  by_cases hn : y.intask = []
  case pos => exact ⟨y.toFront.tokens, y.key, by simp [tokensToKey, hn], h.key⟩
  case neg =>
    have ⟨m, t, hi, _, hk⟩ := h.intask.eq_pair hn
    exact ⟨y.toFront.tokens ++ [y.key, m], t, by simp [tokensToKey, hi], hk⟩

-- A scan that has come to the end of a key has left all braces, and no identifier goes on.
theorem exists_scan (h : y.Valid) (hb : s.body = y.tokens) :
    ∃ s', Scan.Steps s y.tokensToKey s' ∧ s'.body = y.trailing ∧ ¬s'.inBraces ∧
      ∀ c ∈ s'.rest.head?, ¬Identifier.isPart c := by
  have ⟨s', hs, hb'⟩ := Scan.body_eq_append_iff.mp <| hb.trans y.tokens_eq_append
  have ⟨ts, t, hy, hk⟩ := h.exists_last
  have ⟨_, _, hl⟩ := (hy ▸ hs).exists_last_step
  exact ⟨s', hs, hb', by simp [hl.braces, hk], hl.ends.identifier hk⟩

theorem stopsAt (h : y.Valid) (hb : s.body = y.tokens) : y.scopedKey.StopsAt (join y.trailing) := by
  have ⟨s', _, ht, hb, hp⟩ := h.exists_scan hb
  have hr : (join y.trailing).toList = s'.rest := by simp [← ht, s'.join_body]
  constructor <;> rw [hr]
  case part => exact hp
  case intask =>
    intro hn c cs hcs hs
    apply h.noIntask (intask?_eq_none.mp hn)
    exact ht ▸ Scan.begins_doubleColon_identifier_iff hb |>.mpr ⟨c, cs, hcs, hs⟩
  case config =>
    intro hn hn' cs hcs
    by_contra hh
    apply h.noConfig (intask?_eq_none.mp hn) (config?_eq_none.mp hn')
    exact ht ▸ Scan.begins_colon_iff hb |>.mpr ⟨cs, hcs, hh⟩
  case project =>
    intro hn hn' hn'' hh
    apply h.noProject (intask?_eq_none.mp hn) (config?_eq_none.mp hn') (project?_eq_none.mp hn'')
    exact ht ▸ Scan.begins_slash_iff hb |>.mpr hh

theorem decomposes {line : String} (h : y.Valid) (hb : (Scan.ofLine line).body = y.tokens) :
    y.scopedKey.Decomposes line (join y.leading) (join y.trailing) := by
  have hs : ∀ t ∈ y.tokens, t.Scanned := by
    rw [← hb]
    exact fun _ => Scan.scanned_of_mem_body
  simp only [tokens, List.forall_mem_append, List.forall_mem_cons] at hs
  have ⟨hf, hk, hi, _⟩ := hs
  have hk : Identifier.Valid y.key.text := by simpa only [h.key, Kind.Spells] using hk.spells
  have hl : line = join y.tokens := by
    rw [← hb, Scan.join_body]
    exact String.ofList_toList.symm
  have hd : y.scopedKey.Decomposes _ (join y.leading) (join y.trailing) :=
    h.toValid.decomposes hf hk (h.intask.valid_after hi) (h.stopsAt hb)
  have hi : join y.intask = y.intask?.elim "" ("::" ++ ·.text) :=
    h.intask.join_after hi fun _ h => h
  rw [hl, tokens, join_append, join_cons, join_append, hi]
  simpa only [String.append_assoc, Leaf.ofToken] using hd

end Layout.Valid

namespace ScopedKey

variable {line w r : String} {k : ScopedKey} {cs : List Char}

theorem Valid.head?_render (h : k.Valid) :
    ∃ c ∈ k.render.toList.head?, c = '{' ∨ Identifier.isStart c := by
  cases hu : k.uri?
  case some u => exact ⟨'{', by simp [render, hu, Uri.render], .inl rfl⟩
  case none =>
    cases hp : k.project?
    case some l =>
      obtain ⟨c, _, hl, hc, _⟩ := h.project l hp
      exact ⟨c, by simp [render, hu, hp, hl], .inr hc⟩
    case none =>
      cases hc : k.config?
      case some l =>
        obtain ⟨c, _, hl, hc', _⟩ := h.config l hc
        exact ⟨c, by simp [render, hu, hp, hc, hl], .inr hc'⟩
      case none =>
        obtain ⟨c, _, hl, hc', _⟩ := h.key
        exact ⟨c, by simp [render, hu, hp, hc, hl], .inr hc'⟩

theorem Valid.not_isBlank_of_mem_head? (h : k.Valid) {c : Char}
    (hc : c ∈ (k.render.toList ++ cs).head?) : ¬isBlank c := by
  have ⟨d, hd, hc'⟩ := h.head?_render
  have hd : c = d := by simpa [List.head?_append, Option.mem_def.mp hd, eq_comm] using hc
  cases hc'
  case inl hm => simp [hd, hm, Identifier.isBlank_of_mem_marks Identifier.leftBrace_mem_marks]
  case inr hs => simp [hd, Identifier.isBlank_of_isStart hs]

theorem StopsAt.not_isPart_of_mem_head? (h : k.StopsAt r) :
    ∀ c ∈ ((k.intask?.elim "" ("::" ++ ·.text)).toList ++ r.toList).head?,
      ¬Identifier.isPart c := by
  cases k.intask?
  case none   => simpa using h.part
  case some l => simpa using Identifier.isPart_of_mem_marks Identifier.colon_mem_marks

theorem Decomposes.exists_layout (h : k.Decomposes line w r) :
    ∃ y : Layout, y.Valid ∧ (Scan.ofLine line).body = y.tokens ∧ join y.leading = w ∧
      y.scopedKey.unplaced = k.unplaced ∧ join y.trailing = r := by
  have hline : line.toList = w.toList ++ (k.render.toList ++ r.toList) := by simp [h.line_eq]
  have hs := Scan.before_ofLine line
  rw [hline] at hs
  -- The scan goes along the parts in the order in which they are written.
  obtain ⟨leading, s₁, h₁, hw, hw', hs⟩ :=
    Scan.exists_steps_whitespace hs h.blank fun _ => h.valid.not_isBlank_of_mem_head?
  simp only [render, String.toList_append, List.append_assoc] at hs
  obtain ⟨uri, s₂, h₂, hu, hm, hu', hs⟩ := Scan.exists_steps_uri hs h.valid.uri
  obtain ⟨project, s₃, h₃, hp, hp', hs⟩ :=
    Scan.exists_steps_before hs (.inl ⟨rfl, rfl⟩) h.valid.project
  have hn := h.valid.key.head?_ne_some Identifier.colon_mem_marks
  obtain ⟨config, s₄, h₄, hc, hc', hs⟩ :=
    Scan.exists_steps_before hs (.inr ⟨rfl, rfl, hn _⟩) h.valid.config
  have hk : Kind.Spells .identifier k.key.text := h.valid.key
  have he := h.stops.not_isPart_of_mem_head?
  obtain ⟨key, s₅, h₅, hk, hk', hs⟩ := Scan.exists_step_of_spells hs hk (by simp) (by simp) he
  obtain ⟨intask, s₆, h₆, hi, hi', hs⟩ := Scan.exists_steps_after hs h.valid.intask h.stops.part
  let y : Layout := { leading, uri, project, config, key, intask, trailing := s₆.body }
  have hb : (Scan.ofLine line).body = y.tokens := by
    have h := h₁.append <| h₂.append <| h₃.append <| h₄.append <| .step h₅ h₆
    simpa [y, Layout.tokens, Front.tokens] using h.body_eq
  have hy' : y.scopedKey.unplaced = k.unplaced := by
    have hk : (Leaf.ofToken key).unplaced = k.key.unplaced := by
      simp [Leaf.unplaced, Leaf.ofToken, hk']
    exact ScopedKey.mk.injEq .. |>.mpr ⟨hu', hp', hc', hk, hi', rfl⟩
  have hy : y.Valid := by
    have hr := h.stops
    rw [← stopsAt_unplaced, ← hy', stopsAt_unplaced] at hr
    exact Layout.valid_of_stopsAt ⟨hw, hu, hm, hp, hc⟩ hk hi hs rfl hr
  exact ⟨y, hy, hb, hw', hy', by simp [y, Scan.join_body, hs.rest]⟩

end ScopedKey

end BuildShell
