import BuildShell.Proofs.Printer
import BuildShell.Proofs.Reading.Margin
import BuildShell.Proofs.Report
import Mathlib.Logic.Function.Basic

namespace BuildShell

open Text

variable {printable : Char → Bool} {kind : Char → Prop} {a b line : String} {t u : Token}
  {f g : Form} {n m : Nat} {k : ScopedKey}

namespace Token

theorem render_eq (printable : Char → Bool) (t : Token) : t.render printable =
    "Token(" ++ t.kind.name ++ ", " ++ quoted t.text printable ++
    (", C" ++ toString t.column ++ (if t.malformed then ", malformed" else "") ++ ")") := by
  simp [render, String.append_assoc]

theorem only_render (h : Legible printable kind) (t : Token) : Only kind (t.render printable) := by
  have hk : Only Visible ("Token(" ++ t.kind.name ++ ", ") := by cases t.kind <;> decide
  have hf : Only Visible (if t.malformed then ", malformed" else "") := by split <;> decide
  have hs : Only Visible
      (", C" ++ toString t.column ++ (if t.malformed then ", malformed" else "") ++ ")") := by
    simp only [only_append, only_visible_toString, hf]
    decide
  rw [render_eq]
  exact only_append.mpr ⟨only_append.mpr ⟨h.only hk, h.only_quoted _⟩, h.only hs⟩

theorem text_of_render (h : t.render printable = u.render printable) : t.text = u.text := by
  have hu (t : Token) : Only (· ∉ quoteMarks) ("Token(" ++ t.kind.name ++ ", ") := by
    cases t.kind <;> decide
  rw [render_eq, render_eq] at h
  exact (quoted_between_inj (hu t) (hu u) h).right.left

end Token

namespace Report

open Command

def tokenTexts (printable : Char → Bool) (line : String) : List String :=
  (tokenize line).map (·.render printable)

theorem tokenTexts_ne_nil (printable : Char → Bool) (line : String) :
    tokenTexts printable line ≠ [] := by
  simp [tokenTexts, tokenize, Scan.tokens_eq]

theorem only_of_mem_tokenTexts (h : Legible printable kind) (line : String) :
    ∀ s ∈ tokenTexts printable line, Only kind s := by
  simpa [tokenTexts] using fun t _ => t.only_render h

theorem eq_of_tokens (h : "\n".intercalate (tokenTexts printable a) =
    "\n".intercalate (tokenTexts printable b)) : a = b := by
  have hn := tokenTexts_ne_nil printable
  have ho := only_of_mem_tokenTexts (legible_ne_newline : Legible printable _)
  have h := intercalate_newline_inj (hn a) (hn b) (ho a) (ho b) h
  obtain ⟨text, ht⟩ : ∃ text : String → String, Token.text = text ∘ (·.render printable) :=
    Function.factorsThrough_iff _ |>.mp fun _ _ => Token.text_of_render
  rw [← Scan.join_tokenize a, ← Scan.join_tokenize b, Token.join, Token.join, ht, ← List.map_map,
    ← List.map_map, ← tokenTexts, h, tokenTexts]

theorem exists_spans (line : String) :
    ∃ rest, (ofText line).spans = ⟨"Command", ⟨0, line.length⟩, line⟩ :: rest := by
  have hs : Span.slice ⟨0, line.length⟩ line = line := (Span.covers_whole line).slice_eq
  rw [Command.spans, Node.spans, Node.preorder_eq, List.map_cons, NodeSpan.ofNode, Node.span,
    source_ofText, span_ofText, hs]
  exact ⟨_, rfl⟩

def spanFront (s : NodeSpan) : String :=
  padRight 10 s.kind ++ " " ++ padLeft 3 (toString s.span.start) ++ ".." ++
  padRight 3 (toString s.span.stop) ++ " "

theorem only_spanFront {s : NodeSpan} (hs : kind ' ') (hd : kind '.')
    (hn : ∀ n : Int, Only kind (toString n)) (h : Only kind s.kind) : Only kind (spanFront s) := by
  have hb : Only kind " " := by simpa [Only] using hs
  have hm : Only kind ".." := by simpa [Only] using hd
  have hk := only_padRight hs h 10
  have hl := only_padLeft hs (hn s.span.start) 3
  have hr := only_padRight hs (hn s.span.stop) 3
  simp only [spanFront, only_append]
  exact ⟨⟨⟨⟨⟨hk, hb⟩, hl⟩, hm⟩, hr⟩, hb⟩

theorem eq_of_spans (h : "\n".intercalate ((ofText a).spans.map (spanLine printable)) =
    "\n".intercalate ((ofText b).spans.map (spanLine printable))) : a = b := by
  have hl (line : String) : ∃ before rest, Only (· ∉ quoteMarks) before ∧
      "\n".intercalate ((ofText line).spans.map (spanLine printable)) =
        before ++ quoted line printable ++ rest := by
    have hu : Only (· ∉ quoteMarks) "Command" := by decide
    have hn := only_notMem_quoteMarks_toString
    obtain ⟨ss, hs⟩ := exists_spans line
    let s : NodeSpan := ⟨"Command", ⟨0, line.length⟩, line⟩
    obtain ⟨rest, hr⟩ :=
      exists_intercalate_cons "\n" (spanLine printable s) (ss.map (spanLine printable))
    exact ⟨spanFront s, rest, only_spanFront (by decide) (by decide) hn hu, by rw [hs]; exact hr⟩
  obtain ⟨_, _, ha, hsa⟩ := hl a
  obtain ⟨_, _, hb, hsb⟩ := hl b
  rw [hsa, hsb] at h
  exact (quoted_between_inj ha hb h).right.left

def header (f : Form) (length : Nat) : String :=
  "Command [" ++ f.name ++ "]" ++ " @0.." ++ toString (length : Int)

theorem header_inj (h : header f n = header g m) : f = g ∧ n = m := by
  have hf : f = g := by
    have h := congrArg (·.toList[9]?) h
    cases f <;> cases g <;> simp [header, Form.name] at h ⊢
  subst hf
  exact ⟨rfl, toString_natCast_inj <| String.append_right_inj _ |>.mp h⟩

def outlineTexts (printable : Char → Bool) (line : String) : List String :=
  (Outline.listing printable 0 (.command (ofText line))).map (·.text "  ")

theorem outlineTexts_ne_nil (printable : Char → Bool) (line : String) :
    outlineTexts printable line ≠ [] := by
  simp [outlineTexts, Outline.listing_eq]

theorem only_of_mem_outlineTexts (h : Legible printable kind) (line : String) :
    ∀ s ∈ outlineTexts printable line, Only kind s := by
  have hi : Only kind "  " := h.only (by decide)
  simpa [outlineTexts] using fun l hl => Outline.only_text h hi hl

theorem outlineTexts_of_outline
    (h : (ofText a).outline "  " printable = (ofText b).outline "  " printable) :
    outlineTexts printable a = outlineTexts printable b := by
  have hn := outlineTexts_ne_nil printable
  have ho := only_of_mem_outlineTexts (legible_ne_newline : Legible printable _)
  rw [Command.outline_eq, Command.outline_eq] at h
  exact intercalate_newline_inj (hn a) (hn b) (ho a) (ho b) h

theorem text_header (printable : Char → Bool) (line : String) :
    OutlineLine.text "  " ⟨0, Outline.label printable (.command (ofText line)),
      (Node.command (ofText line)).span⟩ = header (ofText line).form line.length := by
  have hs : " @" ++ toString (0 : Int) ++ ".." = " @0.." := by decide
  have hr : repeated "  " 0 = "" := by decide
  simp only [OutlineLine.text, Span.mark, Node.span, span_ofText, Option.elim, Outline.label,
    header, hs, hr, String.empty_append, String.append_assoc]

theorem exists_outlineTexts (printable : Char → Bool) (line : String) :
    ∃ rest, outlineTexts printable line = header (ofText line).form line.length :: rest := by
  rw [outlineTexts, Outline.listing_eq, List.map_cons, text_header]
  exact ⟨_, rfl⟩

theorem exists_outlineTexts_of_key (printable : Char → Bool)
    (hk : (ofText line).scopedKey? = some k) : ∃ after rest, outlineTexts printable line =
      header (ofText line).form line.length ::
        ("  ScopedKey " ++ quoted k.render printable ++ after) :: rest := by
  have hc : (Node.command (ofText line)).children = [.scopedKey k] := by simp [Node.children, hk]
  have hr : repeated "  " (0 + 1) ++ "ScopedKey " = "  ScopedKey " := by decide
  obtain ⟨after, ht⟩ : ∃ after, OutlineLine.text "  "
      ⟨0 + 1, Outline.label printable (.scopedKey k), (Node.scopedKey k).span⟩ =
      "  ScopedKey " ++ quoted k.render printable ++ after :=
    ⟨_, by rw [OutlineLine.text, Outline.label, ← String.append_assoc, hr]⟩
  rw [outlineTexts, Outline.listing_eq, hc, List.flatMap_singleton, Outline.listing_eq,
    List.map_cons, List.cons_append, List.map_cons, text_header, ht]
  exact ⟨after, _, rfl⟩

-- Without a key, the free text is the whole line. With a key, it is what comes after the key, and
-- what comes before it has the length that is left.
theorem eq_or_sameMargin (h : outlineTexts printable a = outlineTexts printable b) :
    a = b ∨ ((ofText a).form = .scopedKey ∧ (ofText b).form = .scopedKey ∧ SameMargin a b) := by
  have hf := Outline.freeText_of_texts printable (by decide) h
  obtain ⟨_, ha⟩ := exists_outlineTexts printable a
  obtain ⟨_, hb⟩ := exists_outlineTexts printable b
  have ⟨hform, hl⟩ := header_inj <| List.cons.inj (ha ▸ hb ▸ h) |>.left
  cases hka : (ofText a).form
  case unstructured =>
    have hkb := hform ▸ hka
    rw [freeText_of_unstructured hka, freeText_of_unstructured hkb] at hf
    exact .inl hf
  case scopedKey =>
    have hkb := hform ▸ hka
    obtain ⟨k, hk, hd, _⟩ := exists_key hka
    obtain ⟨k', hk', hd', _⟩ := exists_key hkb
    obtain ⟨_, _, ha⟩ := exists_outlineTexts_of_key printable hk
    obtain ⟨_, _, hb⟩ := exists_outlineTexts_of_key printable hk'
    have hs := List.cons.inj (List.cons.inj (ha ▸ hb ▸ h)).right |>.left
    have ⟨_, hr, _⟩ := quoted_between_inj (by decide) (by decide) hs
    exact .inr ⟨rfl, hkb, .of_decomposes (hf ▸ hd) hd' hr hl⟩

theorem outline_congr (c : Command) (leading tokens : List Token) (printable : Char → Bool) :
    { c with leading, tokens : Command }.outline "  " printable = c.outline "  " printable := by
  rw [Command.outline_eq, Command.outline_eq, Outline.listing_eq, Outline.listing_eq]
  rfl

theorem value_render (line : String) (printable : Char → Bool) :
    (render { tokens := true } line printable).value =
      .ok ("\n".intercalate (tokenTexts printable line)) ∧
    (render { spans := true } line printable).value =
      .ok ("\n".intercalate ((ofText line).spans.map (spanLine printable))) ∧
    (render {} line printable).value = .ok ((ofText line).outline "  " printable) := by
  refine ⟨congrArg (·.value) <| render_of_tokens rfl line printable, ?spans, ?outline⟩
  case spans   => exact (render_of_not_tokens Bool.false_ne_true line printable).left
  case outline => exact (render_of_not_tokens Bool.false_ne_true line printable).left

-- What is shown tells the line, except that the outline of a line with a scoped key does not tell
-- which blanks come before the key. Which characters are printable does not matter.
theorem render_eq_iff (printable : Char → Bool) (a b : String) :
    ((render { tokens := true } a printable).value = (render { tokens := true } b printable).value ↔
      a = b) ∧
    ((render { spans := true } a printable).value = (render { spans := true } b printable).value ↔
      a = b) ∧
    ((render {} a printable).value = (render {} b printable).value ↔ a = b ∨
      ((ofText a).form = .scopedKey ∧ (ofText b).form = .scopedKey ∧ SameMargin a b)) := by
  obtain ⟨hta, hsa, hoa⟩ := value_render a printable
  obtain ⟨htb, hsb, hob⟩ := value_render b printable
  rw [hta, htb, hsa, hsb, hoa, hob]
  refine ⟨⟨fun h => ?tokens, fun h => h ▸ rfl⟩, ⟨fun h => ?spans, fun h => h ▸ rfl⟩,
    ⟨fun h => ?outline, ?mpr⟩⟩
  case tokens  => exact eq_of_tokens <| Except.ok.inj h
  case spans   => exact eq_of_spans <| Except.ok.inj h
  case outline => exact eq_or_sameMargin <| outlineTexts_of_outline <| Except.ok.inj h
  case mpr =>
    rintro (rfl | ⟨hf, _, h⟩)
    case inl => rfl
    case inr =>
      obtain ⟨_, _, hb⟩ := ofText_of_sameMargin h hf
      exact congrArg Except.ok <| hb ▸ (outline_congr ..).symm

end Report

end BuildShell
