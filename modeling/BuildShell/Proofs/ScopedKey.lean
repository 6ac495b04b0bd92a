import BuildShell.Proofs.Text
import BuildShell.ScopedKey
import Mathlib.Tactic.MkIffOfInductiveProp

namespace BuildShell

open Text

theorem beq_iff_map_eq {α β : Type} [BEq α] {f : α → β} (h : ∀ a b : α, a == b ↔ f a = f b)
    (a? b? : Option α) : a? == b? ↔ a?.map f = b?.map f := by
  cases a? <;> cases b?
  case some.some a b => simpa using h a b
  all_goals simp

-- Nodes that say the same differ at most in where they stand. So they become equal when each of
-- them is moved to the origin.
def Leaf.unplaced (l : Leaf) : Leaf :=
  { l with span := .origin }

theorem Leaf.beq_iff (l₁ l₂ : Leaf) : l₁ == l₂ ↔ l₁.unplaced = l₂.unplaced := by
  have h : (l₁ == l₂) = (l₁.text == l₂.text) := rfl
  simp [h, unplaced]

namespace Uri

def unplaced (u : Uri) : Uri :=
  { u with toLeaf := u.toLeaf.unplaced }

theorem beq_iff (u₁ u₂ : Uri) : u₁ == u₂ ↔ u₁.unplaced = u₂.unplaced := by
  have h : (u₁ == u₂) = (u₁.toLeaf == u₂.toLeaf && u₁.malformed == u₂.malformed) := rfl
  simp [h, unplaced, Leaf.beq_iff]

@[mk_iff]
structure Valid (u : Uri) : Prop where
  closed    : ¬u.malformed
  not_empty : u.text ≠ ""
  no_brace  : '}' ∉ u.text.toList

end Uri

namespace ScopedKey

def unplaced (k : ScopedKey) : ScopedKey where
  uri?     := k.uri?.map Uri.unplaced
  project? := k.project?.map Leaf.unplaced
  config?  := k.config?.map Leaf.unplaced
  key      := k.key.unplaced
  intask?  := k.intask?.map Leaf.unplaced

variable {k k₁ k₂ : ScopedKey} {line w r : String}

theorem beq_iff (k₁ k₂ : ScopedKey) : k₁ == k₂ ↔ k₁.unplaced = k₂.unplaced := by
  have h : (k₁ == k₂) = (k₁.key == k₂.key && k₁.uri? == k₂.uri? && k₁.project? == k₂.project? &&
    k₁.config? == k₂.config? && k₁.intask? == k₂.intask?) := rfl
  simp only [h, Bool.and_eq_true, Leaf.beq_iff, beq_iff_map_eq Uri.beq_iff,
    beq_iff_map_eq Leaf.beq_iff, unplaced, mk.injEq]
  grind

theorem some_beq_some (k₁ k₂ : ScopedKey) : some k₁ == some k₂ ↔ k₁.unplaced = k₂.unplaced :=
  beq_iff k₁ k₂

theorem render_unplaced (k : ScopedKey) : k.unplaced.render = k.render := by
  simp only [render, unplaced, Option.elim_map]
  rfl

@[mk_iff]
structure Valid (k : ScopedKey) : Prop where
  uri     : ∀ u ∈ k.uri?, u.Valid
  project : ∀ l ∈ k.project?, Identifier.Valid l.text
  config  : ∀ l ∈ k.config?, Identifier.Valid l.text
  key     : Identifier.Valid k.key.text
  intask  : ∀ l ∈ k.intask?, Identifier.Valid l.text

@[mk_iff]
structure StopsAt (k : ScopedKey) (r : String) : Prop where
  part    : ∀ c ∈ r.toList.head?, ¬Identifier.isPart c
  intask  : k.intask? = none → ∀ c cs, r.toList = ':' :: ':' :: c :: cs → ¬Identifier.isStart c
  config  : k.intask? = none → k.config? = none → ∀ cs, r.toList = ':' :: cs → cs.head? = some ':'
  project : k.intask? = none → k.config? = none → k.project? = none → r.toList.head? ≠ some '/'

-- A line that consists of whitespace, a key as it is written, and any text that can come after it.
structure Decomposes (line w : String) (k : ScopedKey) (r : String) : Prop where
  line_eq : line = w ++ k.render ++ r
  blank   : ∀ c ∈ w.toList, isBlank c
  valid   : k.Valid
  stops   : k.StopsAt r

theorem stopsAt_empty (k : ScopedKey) : k.StopsAt "" :=
  ⟨by simp, by simp, by simp, by simp⟩

theorem valid_unplaced (k : ScopedKey) : k.unplaced.Valid ↔ k.Valid := by
  simp [valid_iff, Uri.valid_iff, unplaced, Uri.unplaced, Leaf.unplaced]

theorem stopsAt_unplaced (k : ScopedKey) (r : String) : k.unplaced.StopsAt r ↔ k.StopsAt r := by
  simp [stopsAt_iff, unplaced]

theorem Decomposes.congr (h : k₁.unplaced = k₂.unplaced) (hd : Decomposes line w k₁ r) :
    Decomposes line w k₂ r where
  line_eq := by rw [← k₂.render_unplaced, ← h, k₁.render_unplaced, hd.line_eq]
  blank   := hd.blank
  valid   := by rw [← k₂.valid_unplaced, ← h, k₁.valid_unplaced]; exact hd.valid
  stops   := by rw [← k₂.stopsAt_unplaced, ← h, k₁.stopsAt_unplaced]; exact hd.stops

end ScopedKey

end BuildShell
