import BuildShell.Node
import BuildShell.Proofs.Span
import Mathlib.Data.List.Basic
import Mathlib.Data.List.Chain
import Mathlib.Logic.Relation

namespace BuildShell.Node

def written : Node → String
  | plain _                                          => ""
  | leaf l | project l | config l | key l | intask l => l.text
  | uri u                                            => u.render
  | scopedKey k                                      => k.render
  | command c                                        => c.source

def separator : Node → String
  | project _ => "/"
  | config _  => ":"
  | key _     => "::"
  | _         => ""

-- The nodes stand side by side in the line, in this order and with their separators between them,
-- and the first one comes after the text `before`.
inductive Tiles (line : String) : String → List Node → Prop
  | last {before n} : n.span.Covers line before n.written → Tiles line before [n]
  | cons {before n ns} :
    n.span.Covers line before n.written → Tiles line (before ++ n.written ++ n.separator) ns →
    Tiles line before (n :: ns)

namespace Tiles

variable {line before : String} {n : Node} {ns : List Node}

theorem covers_of_mem (h : Tiles line before ns) (hn : n ∈ ns) :
    ∃ before, n.span.Covers line before n.written := by
  induction h
  case last hc      => exact List.mem_singleton.mp hn ▸ ⟨_, hc⟩
  case cons hc _ hi =>
    cases hn
    case head    => exact ⟨_, hc⟩
    case tail hn => exact hi hn

theorem covers_head (h : Tiles line before (n :: ns)) : n.span.Covers line before n.written := by
  cases h <;> assumption

theorem exists_mem_head? (h : Tiles line before ns) :
    ∃ n ∈ ns.head?, n.span.start = before.length := by
  cases h
  case last hc   => exact ⟨_, rfl, hc.start⟩
  case cons hc _ => exact ⟨_, rfl, hc.start⟩

theorem le_start_of_mem (h : Tiles line before ns) (hn : n ∈ ns) :
    before.length ≤ n.span.start := by
  induction h
  case last hc      => exact List.mem_singleton.mp hn ▸ Int.le_of_eq hc.start.symm
  case cons hc _ hi =>
    cases hn
    case head    => exact Int.le_of_eq hc.start.symm
    case tail hn =>
      have hs := hi hn
      simp only [String.length_append] at hs
      omega

theorem pairwise (h : Tiles line before ns) : ns.Pairwise (·.span.stop ≤ ·.span.start) := by
  induction h
  case last          => exact List.pairwise_singleton ..
  case cons hc ht hi =>
    refine .cons (fun m hm => ?_) hi
    have hs := ht.le_start_of_mem hm
    have hp := hc.stop
    simp only [String.length_append] at hs
    omega

theorem stop_le_of_mem_getLast? {last : Node} (h : Tiles line before ns)
    (hl : last ∈ ns.getLast?) (hn : n ∈ ns) : n.span.stop ≤ last.span.stop := by
  have ⟨ms, hms⟩ := List.getLast?_eq_some_iff.mp hl
  subst hms
  cases List.mem_append.mp hn
  case inr hn => exact List.mem_singleton.mp hn ▸ Int.le_refl _
  case inl hn =>
    have hp := List.pairwise_append.mp h.pairwise |>.right.right n hn last (by simp)
    have ⟨_, hc⟩ := h.covers_of_mem (n := last) (by simp)
    exact Int.le_trans hp hc.start_le_stop

theorem isChain (h : Tiles line before ns) :
    ns.IsChain fun n m => Span.slice ⟨n.span.stop, m.span.start⟩ line = n.separator := by
  induction h
  case last          => exact .singleton _
  case cons hc ht hi =>
    refine List.isChain_cons.mpr ⟨fun m hm => ?_, hi⟩
    have ⟨_, hns⟩ := List.head?_eq_some_iff.mp hm
    exact hc.between (hns ▸ ht).covers_head |>.slice_eq

end Tiles

structure Faithful (line : String) (n : Node) : Prop where
  start_nonneg   : 0 ≤ n.span.start
  start_le_stop  : n.span.start ≤ n.span.stop
  stop_le_length : n.span.stop ≤ line.length
  slice_eq       : n.span.slice line = n.written
  contains       : ∀ c ∈ n.children, n.span.start ≤ c.span.start ∧ c.span.stop ≤ n.span.stop

variable {line before : String} {n : Node}

theorem faithful_of_covers (h : n.span.Covers line before n.written)
    (hc : ∀ c ∈ n.children, n.span.start ≤ c.span.start ∧ c.span.stop ≤ n.span.stop) :
    n.Faithful line :=
  ⟨h.start_nonneg, h.start_le_stop, h.stop_le_length, h.slice_eq, hc⟩

theorem preorder_of_children_eq_nil (h : n.children = []) : n.preorder = [n] := by
  rw [preorder_eq, h, List.flatMap_nil]

theorem faithful_of_children_eq_nil (h : n.span.Covers line before n.written)
    (hn : n.children = []) : ∀ m ∈ n.preorder, m.Faithful line := by
  simpa [preorder_of_children_eq_nil hn] using faithful_of_covers h (by simp [hn])

theorem children_eq_nil_of_mem {k : ScopedKey} (h : n ∈ (scopedKey k).children) :
    n.children = [] := by
  simp only [children, List.mem_append, Option.mem_toList, Option.map_eq_some_iff,
    List.mem_singleton] at h
  obtain (((⟨_, _, rfl⟩ | ⟨_, _, rfl⟩) | ⟨_, _, rfl⟩) | rfl) | ⟨_, _, rfl⟩ := h <;> rfl

theorem names_children (k : ScopedKey) :
    ((scopedKey k).children.map name).Sublist ["Uri", "ProjectId", "Config", "Key", "Intask"] := by
  have h {α : Type} (o : Option α) (node : α → Node) (s : String) (hn : ∀ a, (node a).name = s) :
      ((o.map node).toList.map name).Sublist [s] := by
    cases o <;> simp [hn]
  simp only [children, List.map_append]
  exact h k.uri? .uri "Uri" (fun _ => rfl)
    |>.append (h k.project? .project "ProjectId" fun _ => rfl)
    |>.append (h k.config? .config "Config" fun _ => rfl)
    |>.append (.refl ["Key"])
    |>.append (h k.intask? .intask "Intask" fun _ => rfl)

theorem preorder_scopedKey (k : ScopedKey) :
    (scopedKey k).preorder = scopedKey k :: (scopedKey k).children := by
  have hc : ∀ c ∈ (scopedKey k).children, c.preorder = [c] :=
    fun c hc => preorder_of_children_eq_nil <| children_eq_nil_of_mem hc
  rw [preorder_eq, List.flatMap_congr hc, List.flatMap_singleton']

-- The names of all kinds of nodes, where each kind comes before those that its parts can be of.
def names : List String :=
  ["ASTNode", "Leaf", "Command", "ScopedKey", "Uri", "ProjectId", "Config", "Key", "Intask"]

theorem names_preorder_sublist (n : Node) : (n.preorder.map name).Sublist names := by
  have hk (k : ScopedKey) : ((scopedKey k).preorder.map name).Sublist (names.drop 3) := by
    rw [preorder_scopedKey, List.map_cons]
    exact (names_children k).cons_cons _
  cases n
  case scopedKey k => exact (hk k).trans <| List.drop_sublist ..
  case command c =>
    refine .trans ?_ <| List.drop_sublist 2 names
    rw [preorder_eq, List.map_cons]
    refine List.Sublist.cons_cons _ ?_
    cases hs : c.scopedKey?
    case some k =>
      have hc : (command c).children = [scopedKey k] := by simp [children, hs]
      rw [hc, List.flatMap_singleton]
      exact hk k
    case none =>
      cases hu : c.uri?
      case none   => simp [children, hs, hu]
      case some u =>
        have hp : (uri u).preorder = [uri u] := preorder_of_children_eq_nil rfl
        simp [children, hs, hu, hp, name]
  all_goals
    rw [preorder_of_children_eq_nil rfl, List.map_singleton, name]
    exact List.singleton_sublist.mpr (by decide)

theorem nodup_names_preorder (n : Node) : (n.preorder.map name).Nodup :=
  n.names_preorder_sublist.nodup (by decide)

theorem self_mem_preorder (n : Node) : n ∈ n.preorder :=
  n.preorder_eq ▸ List.mem_cons_self

theorem mem_preorder_of_mem_children {m c : Node} (hc : c ∈ n.children) (h : m ∈ c.preorder) :
    m ∈ n.preorder := by
  rw [preorder_eq]
  exact .tail _ <| List.mem_flatMap.mpr ⟨c, hc, h⟩

-- The parts of a node are what its fields hold.
inductive IsPart : Node → Node → Prop
  | uri {k u}       : k.uri? = some u → IsPart (uri u) (scopedKey k)
  | project {k l}   : k.project? = some l → IsPart (project l) (scopedKey k)
  | config {k l}    : k.config? = some l → IsPart (config l) (scopedKey k)
  | key {k}         : IsPart (key k.key) (scopedKey k)
  | intask {k l}    : k.intask? = some l → IsPart (intask l) (scopedKey k)
  | scopedKey {c k} : c.scopedKey? = some k → IsPart (scopedKey k) (command c)
  | front {c u}     : c.scopedKey? = none → c.uri? = some u → IsPart (uri u) (command c)

theorem IsPart.mem_children {c : Node} (h : c.IsPart n) : c ∈ n.children := by
  cases h <;> simp_all [children]

theorem mem_preorder_of_isPart {m : Node} (h : Relation.ReflTransGen (fun n c => IsPart c n) n m) :
    m ∈ n.preorder := by
  induction h using Relation.ReflTransGen.head_induction_on
  case refl           => exact m.self_mem_preorder
  case head hc _ hi   => exact mem_preorder_of_mem_children hc.mem_children hi

theorem forall_mem_preorder_iff {p : Node → Prop} :
    (∀ m ∈ n.preorder, p m) ↔ (p n ∧ ∀ c ∈ n.children, ∀ m ∈ c.preorder, p m) := by
  rw [preorder_eq, List.forall_mem_cons, List.forall_mem_flatMap]

def leveled (level : Nat) (n : Node) : List (Nat × Node) :=
  (level, n) :: n.children.attach.flatMap fun ⟨c, _⟩ => c.leveled (level + 1)
termination_by n.height
decreasing_by exact height_lt_of_mem_children ‹_›

theorem leveled_eq (level : Nat) (n : Node) :
    n.leveled level = (level, n) :: n.children.flatMap (leveled (level + 1)) := by
  rw [leveled]
  simp [List.flatMap_subtype]

theorem map_snd_leveled (level : Nat) (n : Node) : (n.leveled level).map (·.snd) = n.preorder := by
  have hc : ∀ c ∈ n.children, (c.leveled (level + 1)).map (·.snd) = c.preorder :=
    fun c hc => map_snd_leveled (level + 1) c
  rw [leveled_eq, preorder_eq, List.map_cons, List.map_flatMap, List.flatMap_congr hc]
termination_by n.height
decreasing_by exact height_lt_of_mem_children hc

theorem level_le_of_mem_leveled {level : Nat} {n : Node} {q : Nat × Node}
    (h : q ∈ n.leveled level) : q.fst ≤ level + n.height := by
  rw [leveled_eq] at h
  cases h
  case head => exact Nat.le_add_right level n.height
  case tail h =>
    obtain ⟨c, hc, hq⟩ := List.mem_flatMap.mp h
    have hl := level_le_of_mem_leveled hq
    have hh := height_lt_of_mem_children hc
    omega
termination_by n.height
decreasing_by exact height_lt_of_mem_children hc

end BuildShell.Node
