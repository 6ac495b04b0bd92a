import BuildShell.Proofs.Reading.Spans
import BuildShell.Proofs.Scan.Begins

namespace BuildShell

open Text Token

variable {a b line : String} {l : TokenLine} {ts us : List Token} {y : Layout}

-- Lines that differ at most in the blanks that they begin with, but not in how many these are.
structure SameMargin (a b : String) : Prop where
  size : (a.toList.takeWhile isBlank).length = (b.toList.takeWhile isBlank).length
  rest : a.toList.dropWhile isBlank = b.toList.dropWhile isBlank

namespace SameMargin

theorem length_eq (h : SameMargin a b) : a.length = b.length := by
  have hs (s : String) : s.length =
      (s.toList.takeWhile isBlank).length + (s.toList.dropWhile isBlank).length := by
    rw [← List.length_append, List.takeWhile_append_dropWhile, String.length_toList]
  rw [hs a, hs b, h.size, h.rest]

theorem of_append {w w' r : String} (hw : ∀ c ∈ w.toList, isBlank c)
    (hw' : ∀ c ∈ w'.toList, isBlank c) (hr : ∀ c ∈ r.toList.head?, ¬isBlank c)
    (hl : w.length = w'.length) : SameMargin (w ++ r) (w' ++ r) := by
  have ⟨ht, hd⟩ := run_iff isBlank (w ++ r).toList |>.mpr ⟨String.toList_append, hw, hr⟩
  have ⟨ht', hd'⟩ := run_iff isBlank (w' ++ r).toList |>.mpr ⟨String.toList_append, hw', hr⟩
  exact ⟨by rw [ht, ht', String.length_toList, hl, String.length_toList], hd.trans hd'.symm⟩

theorem of_decomposes {k k' : ScopedKey} {w w' r : String} (h : k.Decomposes a w r)
    (h' : k'.Decomposes b w' r) (hk : k.render = k'.render) (hl : a.length = b.length) :
    SameMargin a b := by
  obtain rfl := h.line_eq
  obtain rfl := h'.line_eq
  have hl : w.length = w'.length := by simpa [hk] using hl
  have hn : ∀ c ∈ (k.render ++ r).toList.head?, ¬isBlank c := by
    simpa only [String.toList_append] using fun _ => h.valid.not_isBlank_of_mem_head?
  rw [← hk, String.append_assoc, String.append_assoc]
  exact .of_append h.blank h'.blank hn hl

end SameMargin

namespace Scan

def pastMargin (line : String) : Scan :=
  ⟨(line.toList.takeWhile isBlank).length, line.toList.dropWhile isBlank, false⟩

theorem not_begins_pastMargin (line : String) : ¬Begins [.whitespace] (pastMargin line).body := by
  have ⟨_, _, hr⟩ := run_iff isBlank line.toList |>.mp ⟨rfl, rfl⟩
  rw [begins_whitespace_iff (by simp [pastMargin])]
  rintro ⟨c, hc, hb⟩
  exact hr c hc hb

theorem exists_margin (line : String) :
    ∃ ts, (∀ t ∈ ts, t.kind = .whitespace) ∧
      (ofLine line).body = ts ++ (pastMargin line).body := by
  have ⟨_, hw, hr⟩ := run_iff isBlank line.toList |>.mp ⟨rfl, rfl⟩
  let w := String.ofList (line.toList.takeWhile isBlank)
  have hs : (ofLine line).Before (w.toList ++ line.toList.dropWhile isBlank) := by
    simpa [w] using before_ofLine line
  obtain ⟨ts, ⟨pos, rest, inBraces⟩, h, hk, hj, rfl, hb⟩ :=
    exists_steps_whitespace hs (by simpa [w] using hw) hr
  obtain rfl : pos = (line.toList.takeWhile isBlank).length := by
    simpa [hj, w, ofLine, ← String.length_toList] using h.pos
  obtain rfl : inBraces = false := by simpa using hb
  exact ⟨ts, hk, h.body_eq⟩

end Scan

theorem SameMargin.pastMargin_eq (h : SameMargin a b) :
    Scan.pastMargin a = Scan.pastMargin b := by
  rw [Scan.pastMargin, Scan.pastMargin, h.size, h.rest]

namespace Layout

def inner (y : Layout) : List Token :=
  y.uri ++ (y.project ++ (y.config ++ y.key :: (y.intask ++ y.trailing)))

theorem tokens_eq (y : Layout) : y.tokens = y.leading ++ y.inner := by
  simp [tokens, inner, Front.tokens]

theorem Valid.not_begins_inner (h : y.Valid) : ¬Begins [.whitespace] y.inner :=
  h.uri.not_begins (by decide) (by decide) fun _ =>
    h.toValid.not_begins (by simp) fun _ _ => by simp [begins_cons, h.key]

theorem Valid.leading_eq (h : y.Valid) (hy : l.body = y.tokens) (hb : l.body = ts ++ us)
    (ht : ∀ t ∈ ts, t.kind = .whitespace) (hn : ¬Begins [.whitespace] us) :
    y.leading = ts ∧ y.inner = us := by
  have ⟨hl, hd⟩ := TokenLine.leading_eq h.leading (hy.trans y.tokens_eq) h.not_begins_inner
  have ⟨hl', hd'⟩ := TokenLine.leading_eq ht hb hn
  exact ⟨hl.symm.trans hl', hd.symm.trans hd'⟩

end Layout

namespace Command

theorem ofText_of_sameMargin (h : SameMargin a b) (hf : (ofText a).form = .scopedKey) :
    ∃ leading tokens, ofText b = { ofText a with leading, tokens } := by
  obtain ⟨y, hy, hb⟩ | ⟨hu, _⟩ := ofText_cases a
  case inr => simp [hf] at hu
  obtain ⟨ts, ht, hts⟩ := Scan.exists_margin a
  obtain ⟨us, hu, hus⟩ := Scan.exists_margin b
  have hl := TokenLine.ofText_body a
  obtain ⟨_, hr⟩ := hy.leading_eq (hl.trans hb) (hl.trans hts) ht (Scan.not_begins_pastMargin a)
  let y' : Layout := { y with leading := us }
  have hy' : y'.Valid := { hy with leading := hu }
  have hb' : (Scan.ofLine b).body = y'.tokens := by
    rw [hus, ← h.pastMargin_eq, ← hr, y'.tokens_eq]
    rfl
  rw [ofText_eq_of_layout hy hb, ofText_eq_of_layout hy' hb']
  refine ⟨us, (TokenLine.ofText b).body, ?_⟩
  simp only [Layout.reading, TokenLine.span_ofText, h.length_eq]
  rfl

end Command

end BuildShell
