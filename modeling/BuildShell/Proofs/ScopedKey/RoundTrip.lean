import BuildShell.Proofs.Reading.Says

namespace BuildShell

open Token

namespace Layout.Valid

variable {y : Layout} {s : Scan}

theorem leading_eq_nil (h : y.Valid) (hb : s.body = y.tokens) (hw : join y.leading = "") :
    y.leading = [] := by
  cases hl : y.leading
  case nil => rfl
  case cons t ts =>
    have ht : t.text = "" := by
      rw [hl, join_cons, String.append_eq_empty_iff] at hw
      exact hw.left
    have hs : t ∈ s.body := by simp [hb, tokens, Front.tokens, hl]
    have hs := Scan.scanned_of_mem_body hs |>.spells
    simp [h.leading t (by simp [hl]), Kind.Spells, ht] at hs

theorem trailing_eq_nil (h : y.Valid) (hb : s.body = y.tokens) (hr : join y.trailing = "") :
    y.trailing = [] := by
  have ⟨s', _, ht, hb, _⟩ := h.exists_scan hb
  have hr : s'.rest = [] := by simpa [← ht, Scan.join_body] using hr
  exact ht ▸ Scan.AtEnd.body_eq ⟨hr, hb⟩

end Layout.Valid

namespace ScopedKey

variable {k : ScopedKey} {text : String}

theorem Valid.decomposes_render (h : k.Valid) : k.Decomposes k.render "" "" where
  line_eq := by simp
  blank   := by simp
  valid   := h
  stops   := k.stopsAt_empty

theorem valid_of_beq (h : (Command.ofText text).scopedKey? == some k) : k.Valid := by
  cases Command.ofText_cases text
  case inl hy =>
    have ⟨y, hy, hb⟩ := hy
    rw [Command.ofText_eq_of_layout hy hb] at h
    have hk : y.scopedKey.unplaced = k.unplaced := some_beq_some .. |>.mp h
    exact (hy.decomposes hb).congr hk |>.valid
  case inr hn => simp [hn] at h

theorem Valid.ofText_render (h : k.Valid) :
    (Command.ofText k.render).scopedKey? == some k ∧ (Command.ofText k.render).leading = [] ∧
    (Command.ofText k.render).trailing = [] := by
  have ⟨y, hy, hb, hw, hk, hr⟩ := h.decomposes_render.exists_layout
  rw [Command.ofText_eq_of_layout hy hb]
  exact ⟨some_beq_some .. |>.mpr hk, hy.leading_eq_nil hb hw, hy.trailing_eq_nil hb hr⟩

-- The keys that are read again as they were are the ones whose parts can be told apart, and all
-- keys that are ever read are among them.
theorem ofText_render_iff (k : ScopedKey) :
    ((Command.ofText k.render).scopedKey? == some k ↔ k.Valid) ∧
    ∀ text, (Command.ofText text).scopedKey? = some k →
      k.Valid ∧ (Command.ofText k.render).scopedKey? == some k ∧
      (Command.ofText k.render).leading = [] ∧ (Command.ofText k.render).trailing = [] := by
  refine ⟨⟨valid_of_beq, fun h => h.ofText_render.left⟩, fun text h => ?_⟩
  have hb : (Command.ofText text).scopedKey? == some k := by
    rw [h, some_beq_some]
  have hk := valid_of_beq hb
  exact ⟨hk, hk.ofText_render⟩

end ScopedKey

end BuildShell
