import BuildShell.Proofs.Node.Equality
import BuildShell.Proofs.Reading.Spans
import BuildShell.Proofs.ScopedKey.RoundTrip

namespace BuildShell

open Token

theorem ScopedKey.Valid.beq_iff_render_eq {k k' : ScopedKey} (h : k.Valid) (h' : k'.Valid) :
    k == k' ↔ k.render = k'.render where
  mp hk  := by
    rw [← k.render_unplaced, beq_iff .. |>.mp hk, k'.render_unplaced]
  mpr hr := by
    have hs := Command.says_iff.mpr h.decomposes_render
    have hs' := Command.says_iff.mpr h'.decomposes_render
    exact hs.unique (hr ▸ hs') |>.right.left

namespace Command

variable {a b : String}

theorem eq_of_unplaced_eq (h : (ofText a).unplaced = (ofText b).unplaced) : a = b := by
  obtain ⟨hf, hs, _, hl, ht⟩ := unplaced_eq_iff .. |>.mp h
  cases hfa : (ofText a).form
  case unstructured =>
    rw [← freeText_of_unstructured hfa, freeText, ht, ← freeText,
      freeText_of_unstructured (hf ▸ hfa)]
  case scopedKey =>
    obtain ⟨k, hk, hd, _⟩ := exists_key hfa
    obtain ⟨k', hk', hd', _⟩ := exists_key (hf ▸ hfa)
    have hu : k.unplaced = k'.unplaced := by simpa [hk, hk'] using hs
    rw [hd.line_eq, ← k.render_unplaced, freeText, hl, hu, ht, k'.render_unplaced, ← freeText,
      ← hd'.line_eq]

-- Nothing of a line is lost that counts in a comparison: only equal lines say the same. Two keys
-- say the same if they are written in the same way where they stand.
theorem ofText_beq_iff (a b : String) :
    (ofText a == ofText b ↔ a = b) ∧
    ((ofText a).form = .scopedKey → (ofText b).form = .scopedKey →
      ∃ k k', (ofText a).scopedKey? = some k ∧ (ofText b).scopedKey? = some k' ∧
        (k == k' ↔ k.span.slice a = k'.span.slice b)) := by
  constructor
  case left =>
    rw [beq_iff]
    exact ⟨eq_of_unplaced_eq, fun h => h ▸ rfl⟩
  case right =>
    intro ha hb
    obtain ⟨k, hk, hd, hc⟩ := exists_key ha
    obtain ⟨k', hk', hd', hc'⟩ := exists_key hb
    refine ⟨k, k', hk, hk', ?_⟩
    rw [hc.slice_eq, hc'.slice_eq]
    exact hd.valid.beq_iff_render_eq hd'.valid

end Command

end BuildShell
