import BuildShell.Outline
import BuildShell.Proofs.Node
import BuildShell.Proofs.Text.Characters

namespace BuildShell

open Text

theorem Span.only_mark (s : Span) : Only Visible s.mark := by
  simp only [mark, only_append, only_visible_toString, and_true]
  decide

namespace Outline

variable {printable : Char → Bool} {kind : Char → Prop} {depth : Int} {n : Node} {c a b : Command}
  {l : OutlineLine} {indent : String}

def label (printable : Char → Bool) : Node → String
  | .command c   => "Command [" ++ c.form.name ++ "]"
  | .scopedKey k => "ScopedKey " ++ quoted k.render printable
  | .uri u       => "Uri " ++ quoted u.text printable ++ if u.malformed then " (malformed)" else ""
  | n            => n.name ++ " " ++ quoted (n.text?.getD "") printable

def closing (printable : Char → Bool) (depth : Int) : Node → List OutlineLine
  | .command c =>
    if c.freeText = "" then [] else [⟨depth + 1, "text " ++ quoted c.freeText printable, none⟩]
  | _ => []

def listing (printable : Char → Bool) (depth : Int) (n : Node) : List OutlineLine :=
  ⟨depth, label printable n, n.span⟩ ::
    (n.children.attach.flatMap (fun ⟨c, _⟩ => listing printable (depth + 1) c) ++
      closing printable depth n)
termination_by n.height
decreasing_by exact Node.height_lt_of_mem_children ‹_›

theorem listing_eq (printable : Char → Bool) (depth : Int) (n : Node) :
    listing printable depth n = ⟨depth, label printable n, n.span⟩ ::
      (n.children.flatMap (listing printable (depth + 1)) ++ closing printable depth n) := by
  rw [listing]
  simp [List.flatMap_subtype]

theorem isUpper_label (printable : Char → Bool) (n : Node) :
    ∃ c ∈ (label printable n).toList.head?, c.isUpper := by
  cases n <;> exact ⟨_, by simp [label, Node.name]; rfl, by decide⟩

theorem only_label (h : Legible printable kind) (n : Node) : Only kind (label printable n) := by
  cases n
  case command c   =>
    cases hf : c.form <;> simp only [label, hf, Form.name] <;> exact h.only (by decide)
  case scopedKey k => exact only_append.mpr ⟨h.only (by decide), h.only_quoted _⟩
  case uri u       =>
    refine only_append.mpr ⟨only_append.mpr ⟨h.only (by decide), h.only_quoted _⟩, h.only ?_⟩
    split <;> decide
  all_goals exact only_append.mpr ⟨h.only (by simp only [Node.name]; decide), h.only_quoted _⟩

theorem mem_closing (h : l ∈ closing printable depth n) :
    ∃ s, l = ⟨depth + 1, "text " ++ quoted s printable, none⟩ := by
  cases n
  case command c =>
    simp only [closing] at h
    split at h
    case isTrue  => simp at h
    case isFalse => exact ⟨_, List.mem_singleton.mp h⟩
  all_goals simp [closing] at h

theorem closing_of_mem_children {m : Node} (h : m ∈ n.children) :
    closing printable depth m = [] := by
  have hh := Node.height_lt_of_mem_children h
  cases m
  case command c => cases n <;> simp [Node.height] at hh
  all_goals rfl

def line (printable : Char → Bool) (depth : Int) (p : Nat × Node) : OutlineLine :=
  ⟨depth + p.fst, label printable p.snd, p.snd.span⟩

theorem listing_add_level (printable : Char → Bool) (depth : Int) (level : Nat) (n : Node) :
    listing printable (depth + level) n =
      (n.leveled level).map (line printable depth) ++ closing printable (depth + level) n := by
  have hc : ∀ c ∈ n.children, listing printable (depth + level + 1) c =
      (c.leveled (level + 1)).map (line printable depth) := by
    intro c hc
    have h := listing_add_level printable depth (level + 1) c
    rwa [closing_of_mem_children hc, List.append_nil, Int.natCast_succ, ← Int.add_assoc] at h
  rw [listing_eq, Node.leveled_eq, List.map_cons, List.map_flatMap, List.flatMap_congr hc]
  rfl
termination_by n.height
decreasing_by exact Node.height_lt_of_mem_children hc

theorem listing_eq_leveled (printable : Char → Bool) (depth : Int) (n : Node) :
    listing printable depth n =
      (n.leveled 0).map (line printable depth) ++ closing printable depth n := by
  simpa using listing_add_level printable depth 0 n

theorem mem_listing (h : l ∈ listing printable depth n) :
    (∃ m, l.label = label printable m) ∨ l ∈ closing printable depth n := by
  rw [listing_eq_leveled, List.mem_append] at h
  refine h.imp_left fun h => ?_
  obtain ⟨p, _, rfl⟩ := List.mem_map.mp h
  exact ⟨p.snd, rfl⟩

theorem only_label_of_mem_listing (h : Legible printable kind)
    (hl : l ∈ listing printable depth n) : Only kind l.label := by
  obtain ⟨m, hm⟩ | hc := mem_listing hl
  case inl => exact hm ▸ only_label h m
  case inr =>
    obtain ⟨s, rfl⟩ := mem_closing hc
    exact only_append.mpr ⟨h.only (by decide), h.only_quoted s⟩

theorem only_text (h : Legible printable kind) (hi : Only kind indent)
    (hl : l ∈ listing printable depth n) : Only kind (l.text indent) := by
  have hl := only_label_of_mem_listing h hl
  refine only_append.mpr ⟨only_append.mpr ⟨only_repeated hi _, hl⟩, h.only ?_⟩
  cases l.span?
  case none   => simp [Only]
  case some s => exact s.only_mark

theorem find?_text {ch : Char} (hi : Only (· = ' ') indent) (hc : ch ∈ l.label.toList.head?)
    (hs : ch ≠ ' ') : (l.text indent).toList.find? (· ≠ ' ') = some ch := by
  have hr : (repeated indent l.depth).toList.find? (· ≠ ' ') = none := by
    simpa [Only] using only_repeated hi l.depth
  have hl : l.label.toList.find? (· ≠ ' ') = some ch := by
    cases h : l.label.toList <;> simp_all
  rw [OutlineLine.text, String.toList_append, String.toList_append, List.find?_append,
    List.find?_append, hr, hl]
  rfl

theorem find?_text_of_label {m : Node} (hi : Only (· = ' ') indent)
    (h : l.label = label printable m) : (l.text indent).toList.find? (· ≠ ' ') ≠ some 't' := by
  have ⟨ch, hc, hu⟩ := isUpper_label printable m
  have hs : ch ≠ ' ' := by rintro rfl; exact absurd hu (by decide)
  rw [find?_text hi (h ▸ hc) hs]
  rintro ⟨⟩
  exact absurd hu (by decide)

theorem find?_text_of_closing (hi : Only (· = ' ') indent) (h : l ∈ closing printable depth n) :
    (l.text indent).toList.find? (· ≠ ' ') = some 't' := by
  obtain ⟨s, rfl⟩ := mem_closing h
  exact find?_text hi (by simp) (by decide)

-- What closes a command can be told from the lines of its nodes, which begin with a capital.
theorem filter_texts (printable : Char → Bool) (hi : Only (· = ' ') indent) (c : Command) :
    ((listing printable depth (.command c)).map (·.text indent)).filter
      (fun s => s.toList.find? (· ≠ ' ') = some 't') =
    (closing printable depth (.command c)).map (·.text indent) := by
  rw [List.filter_map, listing_eq_leveled, List.filter_append, List.filter_eq_nil_iff.mpr ?nodes,
    List.filter_eq_self.mpr ?closing, List.nil_append]
  case closing => simpa using fun l hl => find?_text_of_closing hi hl
  case nodes =>
    intro l hl
    obtain ⟨p, _, rfl⟩ := List.mem_map.mp hl
    have hm : (line printable depth p).label = label printable p.snd := rfl
    simpa using find?_text_of_label hi hm

theorem freeText_of_closing (hi : Only (· = ' ') indent)
    (h : (closing printable depth (.command a)).map (·.text indent) =
      (closing printable depth (.command b)).map (·.text indent)) : a.freeText = b.freeText := by
  have hu : Only (· ∉ quoteMarks) (repeated indent (depth + 1) ++ "text ") :=
    only_append.mpr ⟨fun c hc => only_repeated hi _ c hc ▸ by decide, by decide⟩
  have ht (s : String) : OutlineLine.text indent ⟨depth + 1, "text " ++ quoted s printable, none⟩ =
      repeated indent (depth + 1) ++ "text " ++ quoted s printable ++ "" := by
    simp [OutlineLine.text, String.append_assoc]
  simp only [closing] at h
  split at h <;> split at h
  case isTrue.isTrue ha hb => rw [ha, hb]
  case isFalse.isFalse     =>
    simp only [List.map_cons, List.map_nil, List.cons.injEq, and_true, ht] at h
    exact (quoted_between_inj hu hu h).right.left
  all_goals simp at h

theorem freeText_of_texts (printable : Char → Bool) (hi : Only (· = ' ') indent)
    (h : (listing printable depth (.command a)).map (·.text indent) =
      (listing printable depth (.command b)).map (·.text indent)) : a.freeText = b.freeText := by
  have hf := congrArg (·.filter fun s => s.toList.find? (· ≠ ' ') = some 't') h
  simp only [filter_texts printable hi] at hf
  exact freeText_of_closing hi hf

end Outline

end BuildShell
