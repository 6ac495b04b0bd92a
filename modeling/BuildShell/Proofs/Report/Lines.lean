import BuildShell.Proofs.Report
import BuildShell.Proofs.Report.Recovery

namespace BuildShell

open Text

variable {printable : Char → Bool} {kind : Char → Prop} {flags : Report.Flags} {ls : List String}
  {text : String}

namespace Text

theorem inRanges_cons_of_le {lo hi n : Nat} {ranges : List (Nat × Nat)} (hl : lo ≤ n)
    (hh : n ≤ hi) : inRanges ((lo, hi) :: ranges) n := by
  simp [inRanges, Nat.not_lt.mpr hl, hh]

theorem isPrintable_of_visible {c : Char} (h : Visible c) : isPrintable c :=
  inRanges_cons_of_le h.left h.right

theorem only_intercalate {sep : String} (hs : Only kind sep) (h : ∀ l ∈ ls, Only kind l) :
    Only kind (sep.intercalate ls) := by
  induction ls
  case nil          => simp [Only]
  case cons l ls hi =>
    obtain ⟨hl, hls⟩ := List.forall_mem_cons.mp h
    cases ls
    case nil  => simpa using hl
    case cons =>
      rw [String.intercalate_cons_cons]
      exact only_append.mpr ⟨only_append.mpr ⟨hl, hs⟩, hi hls⟩

-- A text that can be put out line by line: it has the given number of lines, and there is nothing
-- in them that is not printable.
structure Presentable (printable : Char → Bool) (text : String) (count : Nat) : Prop where
  only          : Only (fun c => c = '\n' ∨ printable c) text
  length_pieces : (pieces text).length = count

def Plain (printable : Char → Bool) (c : Char) : Prop :=
  printable c ∧ c ≠ '\n'

theorem legible_plain (h : ∀ c, Visible c → printable c) :
    Legible printable (Plain printable) :=
  have hn : Legible printable (· ≠ '\n') := legible_ne_newline
  { visible c hv      := ⟨h c hv, hn.visible c hv⟩
    printable c hp hc := ⟨hp, hn.printable c hp hc⟩ }

theorem presentable_intercalate (hn : ls ≠ []) (h : ∀ l ∈ ls, Only (Plain printable) l) :
    Presentable printable ("\n".intercalate ls) ls.length where
  only          := by
    refine only_intercalate (by simp [Only]) fun l hl => ?_
    exact (h l hl).mono fun _ hc => .inr hc.left
  length_pieces := by
    have hl : ∀ l ∈ ls, Only (· ≠ '\n') l := fun l hl => (h l hl).mono fun _ hc => hc.right
    rw [pieces_intercalate hn hl]

theorem presentable_of_plain (h : Only (Plain printable) text) : Presentable printable text 1 := by
  simpa using presentable_intercalate (List.cons_ne_nil text []) (by simpa using h)

end Text

theorem Node.only_name (n : Node) : Only Visible n.name := by
  cases n <;> (rw [name]; decide)

theorem Fallback.only_message (f : Fallback) : Only Visible f.message := by
  have hr : Only Visible f.reason.text := by cases f.reason <;> decide
  simp only [message, only_append, only_visible_toString, hr]
  decide

def Command.nodes (c : Command) : List Node :=
  (Node.command c).preorder

namespace Outline

theorem length_listing (printable : Char → Bool) (depth : Int) (c : Command) :
    (listing printable depth (.command c)).length =
    c.nodes.length + if c.freeText = "" then 0 else 1 := by
  have hc : (closing printable depth (.command c)).length = if c.freeText = "" then 0 else 1 := by
    simp only [closing]
    split <;> rfl
  rw [listing_eq_leveled, List.length_append, List.length_map, hc, Command.nodes,
    ← Node.map_snd_leveled 0, List.length_map]

end Outline

namespace Report

def height (flags : Flags) (line : String) : Nat :=
  if flags.tokens then
    (tokenize line).length
  else if flags.spans then
    (Command.ofText line).nodes.length
  else
    (Command.ofText line).nodes.length + if (Command.ofText line).freeText = "" then 0 else 1

theorem presentable_tokens (h : Legible printable (Plain printable)) (line : String) :
    Presentable printable ("\n".intercalate (tokenTexts printable line))
      (tokenize line).length := by
  have hn := tokenTexts_ne_nil printable line
  have hp := presentable_intercalate hn <| only_of_mem_tokenTexts h line
  rwa [tokenTexts, List.length_map] at hp

theorem only_spanLine (h : Legible printable kind) (line : String) (n : Node) :
    Only kind (spanLine printable (.ofNode line n)) := by
  have hf := only_spanFront (s := .ofNode line n) (by decide) (by decide) only_visible_toString
    n.only_name
  exact only_append.mpr ⟨h.only hf, h.only_quoted _⟩

theorem presentable_spans (h : Legible printable (Plain printable)) (c : Command) :
    Presentable printable ("\n".intercalate (c.spans.map (spanLine printable))) c.nodes.length := by
  have hn : c.spans.map (spanLine printable) ≠ [] := by
    simp [Command.spans, Node.spans, Node.preorder_eq]
  have hl : ∀ s ∈ c.spans.map (spanLine printable), Only (Plain printable) s := by
    simpa [Command.spans, Node.spans] using fun n _ => only_spanLine h c.source n
  have hc : (c.spans.map (spanLine printable)).length = c.nodes.length := by
    simp [Command.spans, Node.spans, Command.nodes]
  exact hc ▸ presentable_intercalate hn hl

theorem presentable_outline (h : Legible printable (Plain printable)) (line : String) :
    Presentable printable ((Command.ofText line).outline "  " printable)
      ((Command.ofText line).nodes.length +
        if (Command.ofText line).freeText = "" then 0 else 1) := by
  have hn := outlineTexts_ne_nil printable line
  have hp := presentable_intercalate hn <| only_of_mem_outlineTexts h line
  rwa [outlineTexts, ← Command.outline_eq, List.length_map, Outline.length_listing] at hp

theorem presentable_showCommand (h : Legible printable (Plain printable)) (ht : ¬flags.tokens)
    (line : String) :
    Presentable printable (showCommand printable flags (.ofText line)) (height flags line) := by
  rw [height, if_neg ht, showCommand]
  by_cases hs : flags.spans
  case pos =>
    rw [if_pos hs, if_pos hs]
    exact presentable_spans h (.ofText line)
  case neg =>
    rw [if_neg hs, if_neg hs]
    exact presentable_outline h line

-- Whatever characters a line has, what is shown of it consists of printable lines, and how many
-- they are depends on what is shown.
theorem presentable_render (flags : Flags) (line : String) :
    match (render flags line).value with
    | .ok text => Presentable isPrintable text (height flags line)
    | .error f => Presentable isPrintable f.message 1 := by
  have h : Legible isPrintable (Plain isPrintable) := legible_plain fun _ => isPrintable_of_visible
  by_cases ht : flags.tokens
  case pos =>
    rw [render_of_tokens ht, height, if_pos ht]
    exact presentable_tokens h line
  case neg =>
    have hs := presentable_showCommand h ht line
    rw [(render_of_not_tokens ht line _).left]
    by_cases hc : flags.check
    case neg => rwa [if_neg hc]
    case pos =>
      rw [if_pos hc]
      obtain ⟨_, hk, _⟩ | ⟨_, f, hf, _⟩ := Command.check_cases line
      case inl => rwa [hk]
      case inr =>
        rw [hf]
        exact presentable_of_plain <| h.only f.only_message

end Report

end BuildShell
