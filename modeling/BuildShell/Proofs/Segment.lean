import BuildShell.Token
import Mathlib.Data.List.Basic

namespace BuildShell.Token

variable {t : Token} {ts us : List Token} {k k' : Kind} {kinds : List Kind}

def Begins (kinds : List Kind) (ts : List Token) : Prop :=
  kinds <+: ts.map (·.kind)

theorem not_begins_nil : ¬Begins (k :: kinds) [] := by
  simp [Begins]

theorem begins_cons : Begins (k :: kinds) (t :: ts) ↔ (t.kind = k ∧ Begins kinds ts) := by
  simp [Begins, eq_comm]

theorem begins_nil : Begins [] ts :=
  List.nil_prefix

theorem begins_singleton : Begins [k] ts ↔ ∃ t us, ts = t :: us ∧ t.kind = k := by
  cases ts
  case nil  => simp [not_begins_nil]
  case cons => simp [begins_cons, begins_nil]

def Segment (kinds : List Kind) (ts : List Token) : Prop :=
  ts = [] ∨ ts.map (·.kind) = kinds

theorem exists_segment (k : Kind) (kinds : List Kind) (ts : List Token) :
    ∃ us vs, ts = us ++ vs ∧ Segment (k :: kinds) us ∧ (us = [] → ¬Begins (k :: kinds) vs) := by
  by_cases h : Begins (k :: kinds) ts
  case neg => exact ⟨[], ts, rfl, .inl rfl, fun _ => h⟩
  case pos =>
    have ⟨_, h⟩ := h
    have ⟨us, vs, hts, hk, _⟩ := List.map_eq_append_iff.mp h.symm
    exact ⟨us, vs, hts, .inr hk, fun hus => by simp [hus] at hk⟩

theorem Segment.eq_pair (h : Segment [k, k'] ts) (hn : ts ≠ []) :
    ∃ t u, ts = [t, u] ∧ t.kind = k ∧ u.kind = k' := by
  have h := h.resolve_left hn
  have hl : ts.length = 2 := by simpa using congrArg List.length h
  have ⟨t, u, hts⟩ := List.length_eq_two.mp hl
  exact ⟨t, u, hts, by simpa [hts] using h⟩

theorem Segment.eq_triple {k'' : Kind} (h : Segment [k, k', k''] ts) (hn : ts ≠ []) :
    ∃ t u v, ts = [t, u, v] ∧ t.kind = k ∧ u.kind = k' ∧ v.kind = k'' := by
  have h := h.resolve_left hn
  have hl : ts.length = 3 := by simpa using congrArg List.length h
  have ⟨t, u, v, hts⟩ := List.length_eq_three.mp hl
  exact ⟨t, u, v, hts, by simpa [hts] using h⟩

theorem Segment.kind_of_mem_getLast? (h : Segment kinds ts) (ht : t ∈ ts.getLast?) :
    t.kind ∈ kinds.getLast? := by
  cases h
  case inl hn => simp [hn] at ht
  case inr hk => simp [← hk, Option.mem_def.mp ht]

theorem Segment.not_begins {kinds' : List Kind} (h : Segment kinds us) (hk : ¬kinds' <+: kinds)
    (hl : kinds'.length ≤ kinds.length) (hn : us = [] → ¬Begins kinds' ts) :
    ¬Begins kinds' (us ++ ts) := by
  cases h
  case inl hu => simpa [hu] using hn hu
  case inr hu =>
    rw [Begins, List.map_append, hu]
    exact fun hb => hk <| List.prefix_of_prefix_length_le hb (List.prefix_append ..) hl

end BuildShell.Token
