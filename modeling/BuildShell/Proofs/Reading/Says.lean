import BuildShell.Proofs.Reading.Decomposition
import BuildShell.Proofs.Reading.Reads

namespace BuildShell

open Token

namespace Command

variable {line w w' r r' : String} {k k' : ScopedKey}

-- What a command says about the line, without regard to where the parts of the key stand.
structure Says (c : Command) (w : String) (k : ScopedKey) (r : String) : Prop where
  form       : c.form = .scopedKey
  leading    : join c.leading = w
  scopedKey? : c.scopedKey? == some k
  freeText   : c.freeText = r

theorem ofText_eq_of_layout {y : Layout} (hy : y.Valid) (hb : (Scan.ofLine line).body = y.tokens) :
    ofText line = (y.reading (.ofText line)).command := by
  have hb : (TokenLine.ofText line).body = y.tokens := by rw [TokenLine.ofText_body, hb]
  rw [ofText, Reading.ofText, (TokenLine.Reads.scopedKey hy hb).read_eq]

theorem ofText_cases (line : String) :
    (∃ y : Layout, y.Valid ∧ (Scan.ofLine line).body = y.tokens) ∨
    ((ofText line).form = .unstructured ∧ (ofText line).scopedKey? = none) := by
  obtain ⟨y, hy, hb, _⟩ | ⟨_, _, _, _, h⟩ := (TokenLine.ofText line).read_cases
  case inl => exact .inl ⟨y, hy, TokenLine.ofText_body line ▸ hb⟩
  case inr =>
    rw [ofText, Reading.ofText, h]
    exact .inr ⟨rfl, rfl⟩

theorem says_iff_of_layout {y : Layout} (hy : y.Valid) (hb : (Scan.ofLine line).body = y.tokens) :
    (ofText line).Says w k r ↔
    (join y.leading = w ∧ y.scopedKey.unplaced = k.unplaced ∧ join y.trailing = r) := by
  rw [ofText_eq_of_layout hy hb]
  constructor
  case mp  => exact fun h => ⟨h.leading, ScopedKey.some_beq_some .. |>.mp h.scopedKey?, h.freeText⟩
  case mpr => exact fun ⟨hw, hk, hr⟩ => ⟨rfl, hw, ScopedKey.some_beq_some .. |>.mpr hk, hr⟩

theorem says_iff : (ofText line).Says w k r ↔ k.Decomposes line w r where
  mp h := by
    cases ofText_cases line
    case inl hy =>
      have ⟨y, hy, hb⟩ := hy
      have ⟨hw, hk, hr⟩ := says_iff_of_layout hy hb |>.mp h
      exact hw ▸ hr ▸ (hy.decomposes hb).congr hk
    case inr hf => simp [h.form] at hf
  mpr h :=
    have ⟨_, hy, hb, hd⟩ := h.exists_layout
    says_iff_of_layout hy hb |>.mpr hd

theorem exists_says_iff :
    (∃ w k r, (ofText line).Says w k r) ↔ (ofText line).form = .scopedKey where
  mp  := fun ⟨_, _, _, h⟩ => h.form
  mpr := by
    intro hf
    cases ofText_cases line
    case inl hy =>
      have ⟨_, hy, hb⟩ := hy
      exact ⟨_, _, _, says_iff_of_layout hy hb |>.mpr ⟨rfl, rfl, rfl⟩⟩
    case inr hf' => simp [hf] at hf'

theorem Says.unique {c : Command} (h : c.Says w k r) (h' : c.Says w' k' r') :
    w = w' ∧ k == k' ∧ r = r' := by
  cases hc : c.scopedKey?
  case none => simpa [hc] using h.scopedKey?
  case some l =>
    have hk : l == k := by simpa [hc] using h.scopedKey?
    have hk' : l == k' := by simpa [hc] using h'.scopedKey?
    rw [ScopedKey.beq_iff] at hk hk' ⊢
    exact ⟨h.leading ▸ h'.leading, hk ▸ hk', h.freeText ▸ h'.freeText⟩

-- The lines with a scoped key are the ones that are made up of whitespace, a key, and a text that
-- can come after the key, and they are made up in one way only.
theorem says_iff_decomposes (line : String) :
    (∀ w k r, (ofText line).Says w k r ↔ ScopedKey.Decomposes line w k r) ∧
    (∀ w k r w' k' r', ScopedKey.Decomposes line w k r → ScopedKey.Decomposes line w' k' r' →
      w = w' ∧ k == k' ∧ r = r') ∧
    ((ofText line).form = .unstructured ↔ ∀ w k r, ¬ScopedKey.Decomposes line w k r) := by
  refine ⟨fun _ _ _ => says_iff, ?unique, ?unstructured⟩
  case unique =>
    intro _ _ _ _ _ _ h h'
    exact (says_iff.mpr h).unique (says_iff.mpr h')
  case unstructured =>
    have h : (∃ w k r, ScopedKey.Decomposes line w k r) ↔ (ofText line).form = .scopedKey := by
      simp only [← says_iff, exists_says_iff]
    cases hf : (ofText line).form
    case scopedKey    => simpa [hf] using h
    case unstructured => simpa [hf] using h

end Command

end BuildShell
