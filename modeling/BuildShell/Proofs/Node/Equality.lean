import BuildShell.Proofs.Node
import BuildShell.Proofs.ScopedKey
import Mathlib.Data.List.Forall2

namespace BuildShell

theorem forall₂_of_map_eq {α β : Type} {f : α → β} {r : α → α → Prop} {as bs : List α}
    (hr : ∀ a b, f a = f b → r a b) (h : as.map f = bs.map f) : List.Forall₂ r as bs := by
  have he : List.Forall₂ Eq (as.map f) (bs.map f) := by rwa [List.forall₂_eq_eq_eq]
  rw [List.forall₂_map_left_iff, List.forall₂_map_right_iff] at he
  exact he.imp hr

namespace Command

-- Commands are compared by what they say. Neither the places of their nodes count, nor the tokens
-- of the line as a whole.
def unplaced (c : Command) : Command where
  form       := c.form
  scopedKey? := c.scopedKey?.map ScopedKey.unplaced
  uri?       := c.uri?.map Uri.unplaced
  leading    := c.leading
  trailing   := c.trailing

theorem freeText_unplaced (c : Command) : c.unplaced.freeText = c.freeText :=
  rfl

theorem unplaced_eq_iff (c₁ c₂ : Command) :
    c₁.unplaced = c₂.unplaced ↔
    (c₁.form = c₂.form ∧
      c₁.scopedKey?.map ScopedKey.unplaced = c₂.scopedKey?.map ScopedKey.unplaced ∧
      c₁.uri?.map Uri.unplaced = c₂.uri?.map Uri.unplaced ∧ c₁.leading = c₂.leading ∧
      c₁.trailing = c₂.trailing) := by
  simp only [unplaced, mk.injEq, and_true]

theorem beq_iff (c₁ c₂ : Command) : c₁ == c₂ ↔ c₁.unplaced = c₂.unplaced := by
  have h : (c₁ == c₂) = (c₁.form == c₂.form && c₁.scopedKey? == c₂.scopedKey? &&
    c₁.uri? == c₂.uri? && c₁.leading == c₂.leading && c₁.trailing == c₂.trailing) := rfl
  simp only [h, Bool.and_eq_true, beq_iff_eq, beq_iff_map_eq ScopedKey.beq_iff,
    beq_iff_map_eq Uri.beq_iff, unplaced_eq_iff, and_assoc]

end Command

namespace Node

def unplaced : Node → Node
  | plain _     => plain .origin
  | leaf l      => leaf l.unplaced
  | uri u       => uri u.unplaced
  | project l   => project l.unplaced
  | config l    => config l.unplaced
  | key l       => key l.unplaced
  | intask l    => intask l.unplaced
  | scopedKey k => scopedKey k.unplaced
  | command c   => command c.unplaced

theorem beq_iff (a b : Node) : a == b ↔ a.unplaced = b.unplaced := by
  cases a <;> cases b
  case plain.plain             => exact iff_of_true rfl rfl
  case leaf.leaf l m           => exact (Leaf.beq_iff l m).trans (by simp [unplaced])
  case uri.uri u v             => exact (Uri.beq_iff u v).trans (by simp [unplaced])
  case project.project l m     => exact (Leaf.beq_iff l m).trans (by simp [unplaced])
  case config.config l m       => exact (Leaf.beq_iff l m).trans (by simp [unplaced])
  case key.key l m             => exact (Leaf.beq_iff l m).trans (by simp [unplaced])
  case intask.intask l m       => exact (Leaf.beq_iff l m).trans (by simp [unplaced])
  case scopedKey.scopedKey k l => exact (ScopedKey.beq_iff k l).trans (by simp [unplaced])
  case command.command c d     => exact (Command.beq_iff c d).trans (by simp [unplaced])
  -- Nodes of two kinds are neither equal nor do they become so.
  all_goals exact iff_of_false Bool.false_ne_true (by simp [unplaced])

theorem congr_of_unplaced_eq {α : Type} {f g : Node → α} {a b : Node}
    (hf : ∀ n, f n.unplaced = g n) (h : a.unplaced = b.unplaced) : g a = g b := by
  rw [← hf a, h, hf b]

theorem equivalence_beq : Equivalence fun a b : Node => a == b := by
  simp only [beq_iff]
  exact ⟨fun _ => rfl, Eq.symm, Eq.trans⟩

section

variable (n : Node)

theorem span_unplaced : n.unplaced.span = .origin := by
  cases n <;> rfl

theorem name_unplaced : n.unplaced.name = n.name := by
  cases n <;> rfl

theorem text?_unplaced : n.unplaced.text? = n.text? := by
  cases n <;> rfl

theorem render?_unplaced : n.unplaced.render? = n.render? := by
  cases n
  case scopedKey k => exact congrArg some k.render_unplaced
  all_goals rfl

theorem children_unplaced : n.unplaced.children = n.children.map unplaced := by
  have h {α : Type} (o : Option α) (f : α → α) (node : α → Node)
      (hn : ∀ a, node (f a) = (node a).unplaced) :
      ((o.map f).map node).toList = (o.map node).toList.map unplaced := by
    cases o <;> simp [hn]
  cases n
  case scopedKey k =>
    have hu := h k.uri? Uri.unplaced uri fun _ => rfl
    have hp := h k.project? Leaf.unplaced project fun _ => rfl
    have hc := h k.config? Leaf.unplaced config fun _ => rfl
    have hi := h k.intask? Leaf.unplaced intask fun _ => rfl
    simp only [unplaced, children, ScopedKey.unplaced, hu, hp, hc, hi, List.map_append,
      List.map_singleton]
  case command c =>
    simp only [unplaced, children, Command.unplaced]
    cases c.scopedKey?
    case none   => exact h c.uri? Uri.unplaced uri fun _ => rfl
    case some k => rfl
  all_goals rfl

end

theorem leveled_unplaced (level : Nat) (n : Node) :
    n.unplaced.leveled level = (n.leveled level).map (Prod.map id unplaced) := by
  have hc : ∀ c ∈ n.children, c.unplaced.leveled (level + 1) =
      (c.leveled (level + 1)).map (Prod.map id unplaced) :=
    fun c hc => leveled_unplaced (level + 1) c
  rw [leveled_eq, leveled_eq, children_unplaced, List.flatMap_map, List.map_cons, List.map_flatMap,
    List.flatMap_congr hc]
  rfl
termination_by n.height
decreasing_by exact height_lt_of_mem_children hc

theorem preorder_unplaced (n : Node) : n.unplaced.preorder = n.preorder.map unplaced := by
  rw [← map_snd_leveled 0, leveled_unplaced, ← map_snd_leveled 0, List.map_map, List.map_map]
  rfl

end Node

end BuildShell
