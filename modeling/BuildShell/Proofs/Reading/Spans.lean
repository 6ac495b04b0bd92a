import BuildShell.Proofs.Node
import BuildShell.Proofs.Reading.Says
import BuildShell.Proofs.Scan.Tokenization
import BuildShell.Proofs.Walk

namespace BuildShell

open Token

variable {line : String} {ts us vs : List Token} {t u : Token} {ns : List Node}

namespace Scan

theorem join_body_ofLine (line : String) : join (ofLine line).body = line := by
  rw [join_body]
  exact String.ofList_toList

theorem scanned_of_body_eq (h : (ofLine line).body = ts ++ (us ++ vs)) : ∀ t ∈ us, t.Scanned :=
  fun t ht => scanned_of_mem_body (s := ofLine line) (by simp [h, ht])

theorem covers (h : (ofLine line).body = ts ++ (us ++ vs)) (ht : t ∈ us.head?)
    (hu : u ∈ us.getLast?) : Span.Covers ⟨t.start, u.stop⟩ line (join ts) (join us) := by
  obtain ⟨s₁, h₁, hb⟩ := body_eq_append_iff.mp h
  obtain ⟨s₂, h₂, _⟩ := body_eq_append_iff.mp hb
  have ⟨_, hl⟩ := h₂.exists_step_of_mem_getLast? hu
  have hs : t.start = s₁.pos := start_of_mem_head? <| by
    rw [h₂.tokens_eq, List.head?_append, Option.mem_def.mp ht]
    rfl
  have hp : s₁.pos = (join ts).length := by simpa [ofLine] using h₁.pos
  exact {
    start := by rw [hs, hp]
    stop  := by rw [hl.stop_token, h₂.pos, hp]; simp
    line  := ⟨join vs, by
      rw [← join_append, ← join_append, List.append_assoc, ← h, join_body_ofLine]⟩ }

theorem covers_token (h : (ofLine line).body = ts ++ t :: vs) :
    t.span.Covers line (join ts) t.text := by
  have h : (ofLine line).body = ts ++ ([t] ++ vs) := h
  have hc := covers h rfl rfl
  rwa [join_cons, join_nil, String.append_empty] at hc

end Scan

namespace Node

theorem tiles_before {kind : Kind} {mark : String} {node : Leaf → Node}
    (hb : (Scan.ofLine line).body = ts ++ (us ++ vs)) (hu : Segment [.identifier, kind] us)
    (hm : ∀ s, kind.Spells s → s = mark)
    (hn : ∀ t, (node (.ofToken t)).span = t.span ∧ (node (.ofToken t)).written = t.text ∧
      (node (.ofToken t)).separator = mark)
    (h : Tiles line (join (ts ++ us)) ns) :
    Tiles line (join ts) (((us.head?.map Leaf.ofToken).map node).toList ++ ns) := by
  by_cases he : us = []
  case pos => simpa [he] using h
  case neg =>
    obtain ⟨t, m, rfl, ht, hk⟩ := hu.eq_pair he
    have ⟨hs, hw, hp⟩ := hn t
    have hm : m.text = mark := hm _ <| hk ▸ (Scan.scanned_of_body_eq hb m <| by simp).spells
    have hb : (Scan.ofLine line).body = ts ++ t :: m :: vs := hb
    refine .cons (by rw [hs, hw]; exact Scan.covers_token hb) ?_
    simpa [hw, hp, join_append, join_cons, join_nil, hm, String.append_assoc] using h

theorem covers_uri {f : Front} (hb : (Scan.ofLine line).body = ts ++ (f.uri ++ vs)) (hf : f.Valid)
    {u : Uri} (hu : u ∈ f.uri?) : u.span.Covers line (join ts) u.render := by
  have hn : f.uri ≠ [] := fun hn => by simp [Front.uri?, hn, Uri.ofTokens?] at hu
  have hj := hf.join_uri <| Scan.scanned_of_body_eq hb
  obtain ⟨brace, body, closing, he, _⟩ := hf.uri_eq hn
  have hs : u.span = ⟨brace.start, closing.stop⟩ := by
    simp only [Front.uri?, he, Uri.ofTokens?, Option.mem_def, Option.some.injEq] at hu
    rw [← hu]
  rw [hs, ← show join f.uri = u.render by rw [hj, Option.mem_def.mp hu]; rfl]
  exact Scan.covers hb (by simp [he]) (by simp [he])

theorem covers_unclosed {brace body : Token}
    (hb : (Scan.ofLine line).body = ts ++ ([brace, body] ++ vs)) (hk : brace.kind = .leftBrace) :
    Span.Covers ⟨brace.start, body.stop⟩ line (join ts) ("\x7b" ++ body.text) := by
  have ht : brace.text = "\x7b" := by
    simpa only [hk, Kind.Spells] using (Scan.scanned_of_body_eq hb brace (by simp)).spells
  have hc := Scan.covers hb rfl rfl
  rwa [join_cons, join_cons, join_nil, ht, String.append_empty] at hc

theorem tiles_uri {f : Front} (hb : (Scan.ofLine line).body = ts ++ (f.uri ++ vs)) (hf : f.Valid)
    (h : Tiles line (join (ts ++ f.uri)) ns) :
    Tiles line (join ts) ((f.uri?.map uri).toList ++ ns) := by
  rw [join_append, hf.join_uri <| Scan.scanned_of_body_eq hb] at h
  cases hu : f.uri?
  case none   => simpa [hu] using h
  case some u => exact .cons (covers_uri hb hf hu) (by simpa [hu, written, separator] using h)

theorem tiles_key {key : Token} {intask : List Token}
    (hb : (Scan.ofLine line).body = ts ++ (key :: (intask ++ vs)))
    (hi : Segment [.doubleColon, .identifier] intask) :
    Tiles line (join ts)
      (Node.key (.ofToken key) :: ((intask.getLast?.map Leaf.ofToken).map Node.intask).toList) := by
  have hc : (Node.key (.ofToken key)).span.Covers line (join ts) key.text := Scan.covers_token hb
  by_cases he : intask = []
  case pos => simpa [he] using Tiles.last hc
  case neg =>
    obtain ⟨m, t, rfl, hk, ht⟩ := hi.eq_pair he
    have hb : (Scan.ofLine line).body = (ts ++ [key, m]) ++ t :: vs := by simp [hb]
    have hm : m.text = "::" := by
      have hm : m.Scanned := Scan.scanned_of_mem_body (s := Scan.ofLine line) (by simp [hb])
      simpa only [hk, Kind.Spells] using hm.spells
    have hj : join (ts ++ [key, m]) = join ts ++ key.text ++ "::" := by
      simp [join_append, join_cons, join_nil, hm, String.append_assoc]
    exact .cons hc <| .last <| hj ▸ Scan.covers_token hb

end Node

namespace ScopedKey

-- A key whose parts stand in the line in the order in which they are listed, from the beginning of
-- the key to its end, with nothing but their separators between them.
structure Spread (line : String) (k : ScopedKey) : Prop where
  names   : ((Node.scopedKey k).children.map Node.name).Sublist
    ["Uri", "ProjectId", "Config", "Key", "Intask"]
  ordered : (Node.scopedKey k).children.Pairwise (·.span.stop ≤ ·.span.start)
  first   : ∃ n ∈ (Node.scopedKey k).children.head?, n.span.start = k.span.start
  last    : ∃ n ∈ (Node.scopedKey k).children.getLast?, n.span.stop = k.span.stop
  between : (Node.scopedKey k).children.IsChain fun n m =>
    Span.slice ⟨n.span.stop, m.span.start⟩ line = n.separator

end ScopedKey

namespace Layout

variable {y : Layout}

theorem children_scopedKey (y : Layout) :
    (Node.scopedKey y.scopedKey).children =
    (y.uri?.map Node.uri).toList ++ ((y.project?.map Node.project).toList ++
      ((y.config?.map Node.config).toList ++
        (Node.key (.ofToken y.key) :: (y.intask?.map Node.intask).toList))) := by
  simp [Node.children, scopedKey, List.append_assoc]

theorem exists_last_child (y : Layout) :
    ∃ n ∈ (Node.scopedKey y.scopedKey).children.getLast?,
      n.span.stop = y.scopedKey.span.stop := by
  rw [children_scopedKey]
  cases hi : y.intask?
  case none   => exact ⟨.key (.ofToken y.key), by simp, by simp [scopedKey, hi]; rfl⟩
  case some l => exact ⟨.intask l, by simp [List.getLast?_cons], by simp [scopedKey, hi]; rfl⟩

namespace Valid

theorem tiles (h : y.Valid) (hb : (Scan.ofLine line).body = y.tokens) :
    Node.Tiles line (join y.leading) (Node.scopedKey y.scopedKey).children := by
  rw [children_scopedKey]
  simp only [tokens, Front.tokens, List.append_assoc] at hb
  refine Node.tiles_uri hb h.toValid ?_
  simp only [← List.append_assoc _ y.uri] at hb
  refine Node.tiles_before hb h.project (fun _ h => h) (fun _ => ⟨rfl, rfl, rfl⟩) ?_
  simp only [← List.append_assoc _ y.project] at hb
  refine Node.tiles_before hb h.config (fun _ h => h) (fun _ => ⟨rfl, rfl, rfl⟩) ?_
  simp only [← List.append_assoc _ y.config] at hb
  exact Node.tiles_key hb h.intask

theorem covers (h : y.Valid) (hb : (Scan.ofLine line).body = y.tokens) :
    y.scopedKey.span.Covers line (join y.leading) y.scopedKey.render := by
  let us := (y.uri ++ (y.project ++ y.config)) ++ y.key :: y.intask
  have hb' : (Scan.ofLine line).body = y.leading ++ (us ++ y.trailing) := by
    simp [hb, us, tokens, Front.tokens, List.append_assoc]
  have hr : join us = y.scopedKey.render := by
    have hl := (h.decomposes hb).line_eq
    rw [← Scan.join_body_ofLine line, hb', join_append, join_append, ← String.append_assoc] at hl
    exact String.append_right_inj _ |>.mp (String.append_left_inj _ |>.mp hl)
  rw [y.span_scopedKey, ← hr]
  refine Scan.covers hb' ?head ?last
  case head =>
    simp only [us, first]
    cases y.uri ++ (y.project ++ y.config) <;> rfl
  case last => simp [us, List.getLast?_append, List.getLast?_cons]

theorem spread (h : y.Valid) (hb : (Scan.ofLine line).body = y.tokens) :
    y.scopedKey.Spread line where
  names   := Node.names_children y.scopedKey
  ordered := (h.tiles hb).pairwise
  first   := by
    rw [(h.covers hb).start]
    exact (h.tiles hb).exists_mem_head?
  last    := y.exists_last_child
  between := (h.tiles hb).isChain

theorem faithful (h : y.Valid) (hb : (Scan.ofLine line).body = y.tokens) :
    ∀ n ∈ (Node.scopedKey y.scopedKey).preorder, n.Faithful line := by
  have hc := h.covers hb
  have ht := h.tiles hb
  have ⟨last, hl, hs⟩ := y.exists_last_child
  refine Node.forall_mem_preorder_iff.mpr ⟨Node.faithful_of_covers hc fun n hn => ⟨?_, ?_⟩, ?_⟩
  case refine_1 => exact hc.start ▸ ht.le_start_of_mem hn
  case refine_2 => exact hs ▸ ht.stop_le_of_mem_getLast? hl hn
  case refine_3 =>
    intro n hn
    have ⟨_, hc⟩ := ht.covers_of_mem hn
    exact Node.faithful_of_children_eq_nil hc <| Node.children_eq_nil_of_mem hn

end Valid

end Layout

namespace TokenLine

theorem join_body (line : String) : join (ofText line).body = line := by
  rw [ofText_body, Scan.join_body_ofLine]

theorem span_ofText (line : String) : (ofText line).span = ⟨0, line.length⟩ := by
  rw [span, ofText_stop]
  simp [Scan.stop, Scan.ofLine, String.length_toList]

end TokenLine

namespace Command

variable {c : Command} {uri? : Option Uri} {y : Layout}

theorem source_ofText (line : String) : (ofText line).source = line := by
  rw [ofText, Reading.ofText]
  obtain ⟨_, _, _, h⟩ | ⟨_, _, _, _, h⟩ := (TokenLine.ofText line).read_cases <;> rw [h]
  all_goals exact TokenLine.join_body line

theorem span_ofText (line : String) : (ofText line).span = ⟨0, line.length⟩ := by
  rw [ofText, Reading.ofText]
  obtain ⟨_, _, _, h⟩ | ⟨_, _, _, _, h⟩ := (TokenLine.ofText line).read_cases <;> rw [h]
  all_goals exact TokenLine.span_ofText line

theorem freeText_of_unstructured (hf : (ofText line).form = .unstructured) :
    (ofText line).freeText = line := by
  obtain ⟨_, _, _, h⟩ | ⟨_, _, _, _, h⟩ := (TokenLine.ofText line).read_cases
  case inl => simp [ofText, Reading.ofText, h, Layout.reading] at hf
  case inr =>
    rw [ofText, Reading.ofText, h]
    exact TokenLine.join_body line

theorem exists_key (hf : (ofText line).form = .scopedKey) :
    ∃ k, (ofText line).scopedKey? = some k ∧
      k.Decomposes line (join (ofText line).leading) (ofText line).freeText ∧
      k.span.Covers line (join (ofText line).leading) k.render := by
  obtain ⟨y, hy, hb⟩ | ⟨hu, _⟩ := ofText_cases line
  case inr => simp [hf] at hu
  rw [ofText_eq_of_layout hy hb]
  exact ⟨y.scopedKey, rfl, hy.decomposes hb, hy.covers hb⟩

-- A command whose places are right: it reaches over the whole line, each of its nodes is faithful,
-- and the line is made up of the key and what stands around it, or has no key in it.
structure Faithful (line : String) (c : Command) : Prop where
  source       : c.source = line
  span         : c.span = ⟨0, line.length⟩
  nodes        : ∀ n ∈ (Node.command c).reached, n.Faithful line
  spread       : ∀ k ∈ c.scopedKey?, k.Spread line
  scopedKey    : c.form = .scopedKey →
    ∃ k ∈ c.scopedKey?, join c.leading ++ k.span.slice line ++ c.freeText = line
  unstructured : c.form = .unstructured → c.freeText = line

theorem faithful_nodes (hs : c.source = line) (hp : c.span = ⟨0, line.length⟩)
    (hc : ∀ n ∈ (Node.command c).children, ∀ m ∈ n.preorder, m.Faithful line) :
    ∀ n ∈ (Node.command c).reached, n.Faithful line := by
  have hp : (Node.command c).span = ⟨0, line.length⟩ := hp
  have hv : (Node.command c).span.Covers line "" (Node.command c).written := by
    rw [hp, Node.written, hs]
    exact Span.covers_whole line
  rw [Node.reached_eq_preorder]
  refine Node.forall_mem_preorder_iff.mpr ⟨Node.faithful_of_covers hv fun n hn => ?_, hc⟩
  have hf := hc n hn n n.self_mem_preorder
  exact hp ▸ ⟨hf.start_nonneg, hf.stop_le_length⟩

theorem faithful_of_layout (hy : y.Valid) (hb : (Scan.ofLine line).body = y.tokens) :
    (y.reading (.ofText line)).command.Faithful line where
  source         := TokenLine.join_body line
  span           := TokenLine.span_ofText line
  nodes          := by
    refine faithful_nodes (TokenLine.join_body line) (TokenLine.span_ofText line) fun n hn => ?_
    obtain rfl : n = .scopedKey y.scopedKey := List.mem_singleton.mp hn
    exact hy.faithful hb
  spread k hk    := by
    obtain rfl : y.scopedKey = k := Option.some.inj hk
    exact hy.spread hb
  scopedKey _    := by
    refine ⟨y.scopedKey, rfl, ?_⟩
    rw [(hy.covers hb).slice_eq]
    exact (hy.decomposes hb).line_eq.symm
  unstructured h := by cases h

theorem faithful_unstructured
    (hu : ∀ u ∈ uri?, ∃ before, u.span.Covers line before u.render) :
    ((TokenLine.ofText line).unstructured uri?).Faithful line where
  source         := TokenLine.join_body line
  span           := TokenLine.span_ofText line
  nodes          := by
    refine faithful_nodes (TokenLine.join_body line) (TokenLine.span_ofText line) fun n hn => ?_
    obtain ⟨u, hu', rfl⟩ : ∃ u ∈ uri?, Node.uri u = n := by
      simpa [Node.children, TokenLine.unstructured] using hn
    obtain ⟨_, hc⟩ := hu u hu'
    exact Node.faithful_of_children_eq_nil hc rfl
  spread k hk    := by cases hk
  scopedKey h    := by cases h
  unstructured _ := TokenLine.join_body line

theorem faithful_ofText (line : String) : (ofText line).Faithful line := by
  have h : (TokenLine.ofText line).Reads (Reading.ofText line) := TokenLine.reads_read _
  rw [ofText]
  generalize Reading.ofText line = r at h
  cases h
  case scopedKey y hy hb => exact faithful_of_layout hy (TokenLine.ofText_body line ▸ hb)
  case bodyExpected      => exact faithful_unstructured (by simp)
  case braceExpected     => exact faithful_unstructured (by simp)
  case keyExpected f left hf hb hs =>
    simp only [TokenLine.ofText_body, Front.tokens, List.append_assoc] at hb
    exact faithful_unstructured fun u hu => ⟨_, Node.covers_uri hb hf hu⟩
  case uriUnterminated leading brace body left hl hk hu hm hb =>
    rw [TokenLine.ofText_body] at hb
    refine faithful_unstructured fun u hu => ⟨join leading, ?_⟩
    obtain rfl := Option.some.inj hu
    simpa [Uri.render] using Node.covers_unclosed hb hk

end Command

end BuildShell
