import BuildShell.Proofs.Printer
import BuildShell.Proofs.Walk

namespace BuildShell

open Text

def OutlineLine.heading? (l : OutlineLine) : Option (String × Span) :=
  l.span?.map (.ofList (l.label.toList.takeWhile (· ≠ ' ')), ·)

namespace Outline

variable {printable : Char → Bool} {n : Node} {d : Nat}

theorem exists_label (printable : Char → Bool) (n : Node) :
    ∃ s, label printable n = n.name ++ " " ++ s := by
  cases n
  case command c   =>
    refine ⟨"[" ++ c.form.name ++ "]", String.toList_inj.mp ?_⟩
    simp [label, Node.name]
  case scopedKey k => exact ⟨_, by rw [label, Node.name]; rfl⟩
  case uri u       => exact ⟨_, by rw [label, String.append_assoc]; rfl⟩
  all_goals exact ⟨_, rfl⟩

theorem only_name (n : Node) : Only (· ≠ ' ') n.name := by
  cases n <;> (rw [Node.name]; decide)

theorem heading?_line (printable : Char → Bool) (depth : Int) (p : Nat × Node) :
    (line printable depth p).heading? = some (p.snd.name, p.snd.span) := by
  obtain ⟨s, hs⟩ := exists_label printable p.snd
  have hn : ∀ c ∈ p.snd.name.toList, decide (c ≠ ' ') = true :=
    fun c hc => decide_eq_true (only_name p.snd c hc)
  have hl : (label printable p.snd).toList = p.snd.name.toList ++ ' ' :: s.toList := by simp [hs]
  have ht : (label printable p.snd).toList.takeWhile (· ≠ ' ') = p.snd.name.toList := by
    rw [hl, List.takeWhile_append_of_pos hn, List.takeWhile_cons_of_neg (by decide),
      List.append_nil]
  rw [OutlineLine.heading?, line, ht, String.ofList_toList]
  rfl

theorem heading?_of_mem_closing {l : OutlineLine} (h : l ∈ closing printable d n) :
    l.heading? = none := by
  obtain ⟨s, rfl⟩ := mem_closing h
  rfl

theorem filterMap_heading?_listing (printable : Char → Bool) (d : Nat) (n : Node) :
    (listing printable d n).filterMap (·.heading?) = n.preorder.map fun m => (m.name, m.span) := by
  have hc : (closing printable d n).filterMap (·.heading?) = [] :=
    List.filterMap_eq_nil_iff.mpr fun l hl => heading?_of_mem_closing hl
  rw [listing_eq_leveled, List.filterMap_append, hc, List.append_nil, List.filterMap_map,
    ← n.map_snd_leveled 0, List.map_map, ← List.filterMap_eq_map]
  exact congrArg (List.filterMap · _) <| funext <| heading?_line printable d

end Outline

namespace Printer

open Outline

variable {p : Printer} {n : Node} {o : Outline} {d : Nat}

-- What a node at a depth is printed as. The free text of a command comes last, since no part of a
-- node is a command.
def rows (printable : Char → Bool) (d : Nat) (n : Node) : List OutlineLine :=
  (n.leveled 0).map (fun q => ⟨(d + q.fst : Nat), label printable q.snd, q.snd.span⟩) ++
  match n with
  | .command c =>
    if c.freeText = "" then [] else [⟨(d + 1 : Nat), "text " ++ quoted c.freeText printable, none⟩]
  | _ => []

theorem listing_eq_rows (printable : Char → Bool) (d : Nat) (n : Node) :
    listing printable d n = rows printable d n := by
  rw [listing_eq_leveled]
  cases n <;> rfl

def indented (indent : String) (l : OutlineLine) : String :=
  .join (.replicate l.depth.toNat indent) ++ l.label ++
  l.span?.elim "" fun s => " @" ++ toString s.start ++ ".." ++ toString s.stop

theorem text_eq_indented (indent : String) (l : OutlineLine) :
    l.text indent = indented indent l := by
  rw [OutlineLine.text, repeated_eq]
  rfl

-- What it means that a node was printed at a depth: there is a line for each node in the order of a
-- walk, and then the free text.
structure Shows (p : Printer) (o : Outline) (d : Nat) (n : Node) (o' : Outline) : Prop where
  depth    : o'.depth = d
  texts    : o'.texts p.indent = o.texts p.indent ++ (rows p.printable d n).map (indented p.indent)
  nodes    : (n.leveled 0).map (·.snd) = n.reached
  headings : ∀ line, (o'.lines.drop o.lines.length).filterMap (·.heading?) =
    (((Visitor.collecting line).walk n).run []).snd.map fun s => (s.kind, s.span)

theorem shows_of_lines {o' : Outline} (hd : o'.depth = d)
    (hl : o'.lines = o.lines ++ rows p.printable d n) : p.Shows o d n o' where
  depth    := hd
  texts    := by
    rw [Outline.texts, hl, List.map_append, Outline.texts]
    exact congrArg _ <| List.map_congr_left fun l _ => text_eq_indented p.indent l
  nodes    := by rw [Node.map_snd_leveled, Node.reached_eq_preorder]
  headings := by
    intro line
    rw [hl, List.drop_left, ← listing_eq_rows, filterMap_heading?_listing,
      Visitor.run_walk_collecting, List.nil_append, Node.spans, List.map_map]
    rfl

-- A node is printed in this way if each of its lines can be written. If not, then the first line
-- that cannot be written tells why, and nothing but the lines before it is added.
theorem print_shows (p : Printer) (n : Node) (h : o.depth = d) :
    ((∀ l ∈ rows p.printable d n, p.Permits l) →
      ∃ o', (p.print n).run.run o = (.ok ⟨⟩, o') ∧ p.Shows o d n o') ∧
    ∀ before l after, rows p.printable d n = before ++ l :: after →
      (∀ l ∈ before, p.Permits l) → ¬p.Permits l →
      ∃ f o', (p.print n).run.run o = (.error f, o') ∧ p.fault? l = some f ∧
        o'.lines = o.lines ++ before := by
  have hw := p.writes_print n o
  rw [h, listing_eq_rows] at hw
  constructor
  case left =>
    intro hp
    obtain ⟨_, hr⟩ := hw.ok <| findSome?_fault?_eq_none_iff.mpr hp
    exact ⟨_, hr, shows_of_lines rfl rfl⟩
  case right =>
    intro before l after hr hp hl
    obtain ⟨f, hf⟩ := Option.ne_none_iff_exists'.mp <| mt fault?_eq_none_iff.mp hl
    obtain ⟨_, he⟩ := (hr ▸ hw).error_of_append (findSome?_fault?_eq_none_iff.mpr hp) hf
    exact ⟨f, _, he, hf, rfl⟩

def farKey : Node :=
  .key ⟨"k", ⟨(10 ^ 4300 : Nat), 0⟩⟩

def farLine : OutlineLine :=
  ⟨0, "Key 'k'", some ⟨(10 ^ 4300 : Nat), 0⟩⟩

theorem rows_farKey : rows isPrintable 0 farKey = [farLine] := by
  have hl : farKey.leveled 0 = [(0, farKey)] := Node.leveled_eq 0 farKey
  have ht : label isPrintable farKey = "Key 'k'" := by decide
  unfold rows
  rw [hl, List.map_singleton, ht]
  rfl

theorem listing_farKey : listing isPrintable 0 farKey = [farLine] :=
  (listing_eq_rows _ 0 farKey).trans rows_farKey

theorem fault?_farLine (indent : String) (printable : Char → Bool) :
    fault? { indent, printable } farLine = some .digits :=
  fault?_of_start rfl rfl <| Limits.digitsFault?_pow (by decide) rfl

theorem print_shows_command :
    let k : ScopedKey := { key := ⟨"k", ⟨0, 1⟩⟩, span := ⟨0, 1⟩ }
    let c : Command := { scopedKey? := k, trailing := [⟨.whitespace, " ", 1, false⟩] }
    let o : Outline := { depth := 1, lines := [⟨0, "before", none⟩] }
    let p : Printer := {}
    (∃ o', (p.print (.command c)).run.run o = (.ok ⟨⟩, o') ∧ p.Shows o 1 (.command c) o') ∧
    ∃ f o', (p.print farKey).run.run {} = (.error f, o') ∧ p.fault? farLine = some f ∧
      o'.lines = [] := by
  intro k c o p
  have hk : (Node.scopedKey k).leveled 1 = [(1, .scopedKey k), (2, .key k.key)] := by
    rw [Node.leveled_eq]
    exact congrArg _ <| List.flatMap_singleton .. |>.trans <| Node.leveled_eq 2 (.key k.key)
  have hc : (Node.command c).leveled 0 = [(0, .command c), (1, .scopedKey k), (2, .key k.key)] := by
    rw [Node.leveled_eq]
    exact congrArg _ <| List.flatMap_singleton .. |>.trans hk
  have hr : (rows p.printable 1 (.command c)).findSome? p.fault? = none := by
    rw [rows, hc]
    decide
  have hf : ¬p.Permits farLine := by
    rw [← fault?_eq_none_iff, fault?_farLine]
    simp
  constructor
  case left  =>
    exact (p.print_shows (d := 1) (.command c) rfl).left <| findSome?_fault?_eq_none_iff.mp hr
  case right =>
    exact (p.print_shows (d := 0) farKey rfl).right [] farLine [] rows_farKey (by simp) hf

-- There is no indentation at a depth that does not fit into a word, not even an empty one, and
-- there is no line for a key that stands too far away.
theorem not_print_shows_key :
    let p : Printer := { indent := "" }
    let n : Node := .key ⟨"k", ⟨1, 2⟩⟩
    let o : Outline := { depth := 9223372036854775808 }
    ((p.print n).run.run o).fst = .error .count ∧
    (¬∃ o', (p.print n).run.run o = (.ok ⟨⟩, o') ∧ p.Shows o 9223372036854775808 n o') ∧
    ((p.print farKey).run.run {}).fst = .error .digits ∧
    ¬∃ o', (p.print farKey).run.run {} = (.ok ⟨⟩, o') ∧ p.Shows {} 0 farKey o' := by
  intro p n o
  have hn : ((p.print n).run.run o).fst = .error .count := by
    obtain ⟨_, h⟩ := (p.writes_print n o).error .count (by rw [listing_eq]; rfl)
    rw [h]
  have hf : ((p.print farKey).run.run {}).fst = .error .digits := by
    have hl : listing p.printable 0 farKey = [farLine] := listing_farKey
    obtain ⟨_, h⟩ := (p.writes_print farKey {}).error .digits
      (by rw [hl, List.findSome?_cons, fault?_farLine])
    rw [h]
  refine ⟨hn, ?near, hf, ?far⟩
  case near =>
    rintro ⟨o', h, _⟩
    rw [h] at hn
    cases hn
  case far =>
    rintro ⟨o', h, _⟩
    rw [h] at hf
    cases hf

end Printer

end BuildShell
