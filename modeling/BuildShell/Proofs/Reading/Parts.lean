import BuildShell.Proofs.Reading.Layout
import BuildShell.Proofs.Scan.Steps
import BuildShell.Proofs.ScopedKey

namespace BuildShell

open Text Token

namespace Scan

structure Before (s : Scan) (cs : List Char) : Prop where
  rest    : s.rest = cs
  outside : ¬s.inBraces

variable {s : Scan} {cs : List Char} {w mark text : String} {kind : Kind} {leaf? : Option Leaf}
  {uri? : Option Uri}

theorem before_ofLine (line : String) : (ofLine line).Before line.toList :=
  ⟨rfl, Bool.false_ne_true⟩

theorem exists_step_of_spells (hs : s.Before (text.toList ++ cs)) (hk : kind.Spells text)
    (hu : kind ≠ .uriBody) (hl : kind ≠ .leftBrace)
    (he : Token.EndsBefore ⟨kind, text, s.pos, false⟩ cs.head?) :
    ∃ t s', s.Step t s' ∧ t.kind = kind ∧ t.text = text ∧ s'.Before cs := by
  have h := step_outside hs.outside hs.rest hu (by simpa) (by simpa)
  exact ⟨_, _, h, rfl, by simp, rfl, by simpa⟩

theorem exists_steps_whitespace (hs : s.Before (w.toList ++ cs)) (hw : ∀ c ∈ w.toList, isBlank c)
    (hn : ∀ c ∈ cs.head?, ¬isBlank c) :
    ∃ ts s', Steps s ts s' ∧ (∀ t ∈ ts, t.kind = .whitespace) ∧ join ts = w ∧ s'.Before cs := by
  by_cases he : w = ""
  case pos => exact ⟨[], s, .refl, by simp, by simp [he, join_nil], by simpa [he] using hs⟩
  case neg =>
    have hk : Kind.Spells .whitespace w := ⟨he, hw⟩
    have ⟨t, s', h, hk, ht, hs'⟩ := exists_step_of_spells hs hk (by simp) (by simp) hn
    exact ⟨[t], s', .single h, by simpa, by simp [join_cons, join_nil, ht], hs'⟩

theorem exists_steps_uri (hs : s.Before ((uri?.elim "" (·.render)).toList ++ cs))
    (hu : ∀ u ∈ uri?, u.Valid) :
    ∃ ts s', Steps s ts s' ∧ Segment [.leftBrace, .uriBody, .rightBrace] ts ∧
      (∀ t ∈ ts, t.kind = .uriBody → ¬t.malformed) ∧
      (Uri.ofTokens? ts).map Uri.unplaced = uri?.map Uri.unplaced ∧ s'.Before cs := by
  cases uri?
  case none => exact ⟨[], s, .refl, .inl rfl, by simp, rfl, by simpa using hs⟩
  case some u =>
    have ⟨hm, he, hb⟩ := hu u rfl
    have hr : s.rest = '{' :: (u.text.toList ++ '}' :: cs) := by simp [hs.rest, Uri.render, hm]
    have h₁ := step_leftBrace hs.outside hr
    have h₂ := step_uriBody (s := ⟨s.pos + 1, u.text.toList ++ '}' :: cs, true⟩) rfl rfl hb
      (by simp [EndsBefore, he])
    have h₃ := step_rightBrace (s := ⟨s.pos + 1 + u.text.toList.length, '}' :: cs, false⟩) rfl
    refine ⟨_, _, .step h₁ <| .step h₂ <| .single h₃, .inr (by simp), ?_, ?_, rfl, by simp⟩
    case refine_1 => simp
    case refine_2 => simp [Uri.ofTokens?, Uri.unplaced, Leaf.unplaced, hm]

theorem endsBefore_of_mem_marks {t : Token} {c : Char} (hk : t.kind = .identifier)
    (hc : c ∈ Identifier.marks) : t.EndsBefore (some c) := by
  simp [EndsBefore, hk, Identifier.isPart_of_mem_marks hc]

theorem exists_steps_before (hs : s.Before ((leaf?.elim "" (·.text ++ mark)).toList ++ cs))
    (hm : (kind = .slash ∧ mark = "/") ∨ (kind = .colon ∧ mark = ":" ∧ cs.head? ≠ some ':'))
    (hl : ∀ l ∈ leaf?, Identifier.Valid l.text) :
    ∃ ts s', Steps s ts s' ∧ Segment [.identifier, kind] ts ∧
      (ts.head?.map Leaf.ofToken).map Leaf.unplaced = leaf?.map Leaf.unplaced ∧ s'.Before cs := by
  cases leaf?
  case none => exact ⟨[], s, .refl, .inl rfl, rfl, by simpa using hs⟩
  case some l =>
    have hs : s.Before (l.text.toList ++ (mark.toList ++ cs)) := by simpa using hs
    have hi : Kind.Spells .identifier l.text := hl l rfl
    have ⟨t, s', h, hk, ht, hs'⟩ := exists_step_of_spells hs hi (by simp) (by simp) ?ends
    case ends =>
      cases hm
      case inl hm => exact hm.right ▸ endsBefore_of_mem_marks rfl Identifier.slash_mem_marks
      case inr hm => exact hm.right.left ▸ endsBefore_of_mem_marks rfl Identifier.colon_mem_marks
    have ⟨hm, hu, hb, he⟩ : kind.Spells mark ∧ kind ≠ .uriBody ∧ kind ≠ .leftBrace ∧
        Token.EndsBefore ⟨kind, mark, s'.pos, false⟩ cs.head? := by
      obtain ⟨rfl, rfl⟩ | ⟨rfl, rfl, hn⟩ := hm
      case inl => exact ⟨rfl, by simp, by simp, trivial⟩
      case inr => exact ⟨rfl, by simp, by simp, hn⟩
    have ⟨m, s'', h', hk', _, hs''⟩ := exists_step_of_spells hs' hm hu hb he
    refine ⟨[t, m], s'', .step h (.single h'), .inr (by simp [hk, hk']), ?_, hs''⟩
    simp [Leaf.unplaced, Leaf.ofToken, ht]

theorem exists_steps_after (hs : s.Before ((leaf?.elim "" ("::" ++ ·.text)).toList ++ cs))
    (hl : ∀ l ∈ leaf?, Identifier.Valid l.text) (hn : ∀ c ∈ cs.head?, ¬Identifier.isPart c) :
    ∃ ts s', Steps s ts s' ∧ Segment [.doubleColon, .identifier] ts ∧
      (ts.getLast?.map Leaf.ofToken).map Leaf.unplaced = leaf?.map Leaf.unplaced ∧
      s'.Before cs := by
  cases leaf?
  case none => exact ⟨[], s, .refl, .inl rfl, rfl, by simpa using hs⟩
  case some l =>
    have hs : s.Before ("::".toList ++ (l.text.toList ++ cs)) := by simpa using hs
    have hm : Kind.Spells .doubleColon "::" := rfl
    have hi : Kind.Spells .identifier l.text := hl l rfl
    have ⟨m, s', h, hk, _, hs'⟩ := exists_step_of_spells hs hm (by simp) (by simp) trivial
    have ⟨t, s'', h', hk', ht, hs''⟩ := exists_step_of_spells hs' hi (by simp) (by simp) hn
    refine ⟨[m, t], s'', .step h (.single h'), .inr (by simp [hk, hk']), ?_, hs''⟩
    simp [Leaf.unplaced, Leaf.ofToken, ht]

end Scan

end BuildShell
