import BuildShell.Proofs.Reading.Parts

namespace BuildShell

open Text

namespace Token

variable {t : Token} {ts : List Token} {kind : Kind} {mark : String}

def Scanned (t : Token) : Prop :=
  ∃ s s', Scan.Step s t s'

theorem Scanned.spells (h : t.Scanned) : t.kind.Spells t.text :=
  have ⟨_, _, h⟩ := h
  h.spells

theorem Scanned.text_ne_empty (h : t.Scanned) (hk : t.kind = .uriBody) (hm : ¬t.malformed) :
    t.text ≠ "" :=
  have ⟨_, _, h⟩ := h
  h.ends.closed hk hm |>.left

theorem isBlank_of_mem_join (hk : ∀ t ∈ ts, t.kind = .whitespace) (hs : ∀ t ∈ ts, t.Scanned) :
    ∀ c ∈ (join ts).toList, isBlank c := by
  induction ts
  case nil => simp [join_nil]
  case cons t ts hi =>
    have ⟨hkt, hkts⟩ := List.forall_mem_cons.mp hk
    have ⟨hst, hsts⟩ := List.forall_mem_cons.mp hs
    have ht : t.text ≠ "" ∧ ∀ c ∈ t.text.toList, isBlank c := by
      simpa only [hkt, Kind.Spells] using hst.spells
    intro c hc
    rw [join_cons, String.toList_append, List.mem_append] at hc
    exact hc.elim (ht.right c) (hi hkts hsts c)

namespace Segment

theorem join_before (h : Segment [.identifier, kind] ts) (hs : ∀ t ∈ ts, t.Scanned)
    (hm : ∀ s, kind.Spells s → s = mark) :
    join ts = (ts.head?.map Leaf.ofToken).elim "" (·.text ++ mark) := by
  by_cases hn : ts = []
  case pos => simp [hn, join_nil]
  case neg =>
    have ⟨t, m, hts, _, hk⟩ := h.eq_pair hn
    have hm := hm m.text <| hk ▸ (hs m <| by simp [hts]).spells
    simp [hts, join_cons, join_nil, hm, Leaf.ofToken]

theorem join_after (h : Segment [kind, .identifier] ts) (hs : ∀ t ∈ ts, t.Scanned)
    (hm : ∀ s, kind.Spells s → s = mark) :
    join ts = (ts.getLast?.map Leaf.ofToken).elim "" (mark ++ ·.text) := by
  by_cases hn : ts = []
  case pos => simp [hn, join_nil]
  case neg =>
    have ⟨m, t, hts, hk, _⟩ := h.eq_pair hn
    have hm := hm m.text <| hk ▸ (hs m <| by simp [hts]).spells
    simp [hts, join_cons, join_nil, hm, Leaf.ofToken]

theorem valid_before (h : Segment [.identifier, kind] ts) (hs : ∀ t ∈ ts, t.Scanned) :
    ∀ l ∈ ts.head?.map Leaf.ofToken, Identifier.Valid l.text := by
  by_cases hn : ts = []
  case pos => simp [hn]
  case neg =>
    have ⟨t, m, hts, hk, _⟩ := h.eq_pair hn
    simpa [hts, hk, Kind.Spells, Leaf.ofToken] using (hs t <| by simp [hts]).spells

theorem valid_after (h : Segment [kind, .identifier] ts) (hs : ∀ t ∈ ts, t.Scanned) :
    ∀ l ∈ ts.getLast?.map Leaf.ofToken, Identifier.Valid l.text := by
  by_cases hn : ts = []
  case pos => simp [hn]
  case neg =>
    have ⟨m, t, hts, _, hk⟩ := h.eq_pair hn
    simpa [hts, hk, Kind.Spells, Leaf.ofToken] using (hs t <| by simp [hts]).spells

end Segment

end Token

open Token

namespace Front

variable {f : Front}

def render (f : Front) : String :=
  f.uri?.elim "" (·.render) ++ f.project?.elim "" (·.text ++ "/") ++
  f.config?.elim "" (·.text ++ ":")

def withKey (f : Front) (key : Leaf) (intask? : Option Leaf) (span : Span) : ScopedKey where
  uri?     := f.uri?
  project? := f.project?
  config?  := f.config?
  key      := key
  intask?  := intask?
  span     := span

namespace Valid

theorem uri_valid (h : f.Valid) (hs : ∀ t ∈ f.uri, t.Scanned) : ∀ u ∈ f.uri?, u.Valid := by
  by_cases hn : f.uri = []
  case pos => simp [uri?, hn, Uri.ofTokens?]
  case neg =>
    obtain ⟨brace, body, closing, hu, _, hk, _, hm⟩ := h.uri_eq hn
    have hb := hs body (by simp [hu])
    have he := hb.text_ne_empty hk hm
    have hc : '}' ∉ body.text.toList := by simpa only [hk, Kind.Spells] using hb.spells
    simpa [uri?, hu, Uri.ofTokens?] using ⟨by simp, he, hc⟩

theorem join_uri (h : f.Valid) (hs : ∀ t ∈ f.uri, t.Scanned) :
    join f.uri = f.uri?.elim "" (·.render) := by
  by_cases hn : f.uri = []
  case pos => simp [uri?, hn, Uri.ofTokens?, join_nil]
  case neg =>
    obtain ⟨brace, body, closing, hu, hk, _, hk', hm⟩ := h.uri_eq hn
    have hb : brace.text = "\x7b" := by
      simpa only [hk, Kind.Spells] using (hs brace <| by simp [hu]).spells
    have hc : closing.text = "\x7d" := by
      simpa only [hk', Kind.Spells] using (hs closing <| by simp [hu]).spells
    simp [uri?, hu, Uri.ofTokens?, Uri.render, join_cons, join_nil, hb, hc, String.append_assoc]

theorem join_tokens (h : f.Valid) (hs : ∀ t ∈ f.tokens, t.Scanned) :
    join f.tokens = join f.leading ++ f.render := by
  simp only [tokens, List.forall_mem_append] at hs
  obtain ⟨_, hu, hp, hc⟩ := hs
  simp only [tokens, render, join_append, h.join_uri hu, h.project.join_before hp fun _ h => h,
    h.config.join_before hc fun _ h => h, project?, config?, String.append_assoc]

end Valid

end Front

end BuildShell
