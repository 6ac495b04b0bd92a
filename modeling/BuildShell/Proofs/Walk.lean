import BuildShell.Proofs.Node
import BuildShell.Visitor

namespace BuildShell

namespace Handler

-- The kind of nodes that a handler is for. There is one handler for nodes of any kind.
def kind? : Handler → Option String
  | node      => none
  | command   => "Command"
  | config    => "Config"
  | intask    => "Intask"
  | key       => "Key"
  | project   => "ProjectId"
  | scopedKey => "ScopedKey"
  | uri       => "Uri"

theorem kind?_inj {h h' : Handler} (hk : h.kind? = h'.kind?) : h = h' := by
  cases h <;> cases h' <;> simp [kind?] at hk ⊢

theorem find?_self (provided : List Handler) (h : Handler) :
    provided.find? (· = h) = if h ∈ provided then some h else none := by
  induction provided
  case nil => rfl
  case cons h' hs hi =>
    by_cases he : h' = h
    case pos => simp [he]
    case neg => simp [he, hi, Ne.symm he]

theorem find?_kind {h : Handler} {kind : String} (hk : h.kind? = some kind)
    (provided : List Handler) :
    provided.find? (·.kind? = some kind) = provided.find? (· = h) := by
  have he : ∀ h' : Handler, h'.kind? = some kind ↔ h' = h :=
    fun h' => ⟨fun hk' => kind?_inj (hk'.trans hk.symm), fun he => he ▸ hk⟩
  simp only [he]

end Handler

namespace Visitor

section

variable {m : Type → Type} {α : Type} [Monad m] [LawfulMonad m] (v : Visitor m α)

theorem forM_flatMap {β γ : Type} (f : β → List γ) (g : γ → m PUnit) (bs : List β) :
    forM (bs.flatMap f) g = forM bs fun b => forM (f b) g := by
  induction bs
  case nil          => rfl
  case cons b bs hi => simp [hi]

omit [LawfulMonad m] in
theorem forM_congr {β : Type} {f g : β → m PUnit} {bs : List β} (h : ∀ b ∈ bs, f b = g b) :
    forM bs f = forM bs g := by
  induction bs
  case nil          => rfl
  case cons b bs hi =>
    have ⟨hb, hbs⟩ := List.forall_mem_cons.mp h
    simp [hb, hi hbs]

theorem walk_eq_forM_preorder (n : Node) :
    v.walk n = forM n.preorder fun n => discard (v.visit n) := by
  have hc : ∀ c ∈ n.children, v.walk c = forM c.preorder fun n => discard (v.visit n) :=
    fun c hc => walk_eq_forM_preorder c
  rw [walk_eq, List.forM_eq_forM, forM_congr hc, Node.preorder_eq, List.forM_cons, forM_flatMap]
termination_by n.height
decreasing_by exact Node.height_lt_of_mem_children hc

end

-- If a visitor adds notes about each node to those that it has, then a walk adds the notes about
-- the nodes below one after the other.
theorem run_walk {α σ : Type} (v : Visitor (StateM (List σ)) α) {notes : Node → List σ}
    (h : ∀ n ss, (discard (v.visit n)).run ss = (⟨⟩, ss ++ notes n)) (n : Node) (ss : List σ) :
    (v.walk n).run ss = (⟨⟩, ss ++ n.preorder.flatMap notes) := by
  rw [walk_eq_forM_preorder]
  induction n.preorder generalizing ss
  case nil =>
    rw [List.flatMap_nil, List.append_nil]
    rfl
  case cons n ns hi =>
    rw [List.forM_cons, StateT.run_bind, h, List.flatMap_cons, ← List.append_assoc]
    exact hi _

-- The handler for the kind of the node goes before the one for nodes of every kind.
def called? (provided : List Handler) (n : Node) : Option Handler :=
  provided.find? (·.kind? = some n.name) <|> provided.find? (· = .node)

theorem own?_cases {m : Type → Type} {α : Type} (v : Visitor m α) (n : Node) :
    (∃ (h : Handler) (s : h.Subject),
      h.kind? = some n.name ∧ h.asNode s = n ∧ v.own? n = (v.on? h).map (· s)) ∨
    ((∀ h : Handler, h.kind? ≠ some n.name) ∧ v.own? n = none) := by
  cases n
  case plain       => exact .inr ⟨fun h => by cases h <;> simp [Handler.kind?, Node.name], rfl⟩
  case leaf        => exact .inr ⟨fun h => by cases h <;> simp [Handler.kind?, Node.name], rfl⟩
  case uri u       => exact .inl ⟨.uri, u, rfl, rfl, rfl⟩
  case project l   => exact .inl ⟨.project, l, rfl, rfl, rfl⟩
  case config l    => exact .inl ⟨.config, l, rfl, rfl, rfl⟩
  case key l       => exact .inl ⟨.key, l, rfl, rfl, rfl⟩
  case intask l    => exact .inl ⟨.intask, l, rfl, rfl, rfl⟩
  case scopedKey k => exact .inl ⟨.scopedKey, k, rfl, rfl, rfl⟩
  case command c   => exact .inl ⟨.command, c, rfl, rfl, rfl⟩

theorem on?_recording (provided : List Handler) {h : Handler} (s : h.Subject) :
    ((recording provided).on? h).map (· s) =
      (provided.find? (· = h)).map fun h' _ => note h' (h.asNode s) := by
  rw [Handler.find?_self]
  by_cases hp : h ∈ provided <;> simp [recording, hp]

theorem own?_recording (provided : List Handler) (n : Node) :
    (recording provided).own? n =
      (provided.find? (·.kind? = some n.name)).map fun h _ => note h n := by
  obtain ⟨h, s, hk, hs, ho⟩ | ⟨hk, ho⟩ := own?_cases (recording provided) n
  case inl => rw [ho, on?_recording, Handler.find?_kind hk, hs]
  case inr =>
    have hf : provided.find? (·.kind? = some n.name) = none := by simpa using fun h _ => hk h
    rw [ho, hf, Option.map_none]

theorem run_visit_recording (provided : List Handler) (n : Node) (vs : List Visit) :
    ((recording provided).visit n).run vs =
    (called? provided n, vs ++ ((called? provided n).map (⟨·, n⟩)).toList) := by
  have hn : ((recording provided).on? .node).map (· n) =
      (provided.find? (· = .node)).map fun h _ => note h n :=
    on?_recording provided (h := .node) n
  rw [visit_eq, own?_recording, hn, called?]
  cases provided.find? (·.kind? = some n.name)
  case some h => rfl
  case none   =>
    cases provided.find? (· = .node)
    case some h => rfl
    case none   => exact congrArg (none, ·) (List.append_nil vs).symm

theorem run_walk_recording (provided : List Handler) (n : Node) (vs : List Visit) :
    ((recording provided).walk n).run vs =
    (⟨⟩, vs ++ n.preorder.filterMap fun n => (called? provided n).map (⟨·, n⟩)) := by
  rw [List.filterMap_eq_flatMap_toList]
  refine run_walk _ (fun n vs => ?_) n vs
  have hv := run_visit_recording provided n vs
  exact congrArg (fun r : Option Handler × List Visit => (PUnit.unit, r.snd)) hv

def calls (provided : List Handler) (n : Node) : List Visit :=
  (((recording provided).walk n).run []).snd

theorem calls_eq (provided : List Handler) (n : Node) :
    calls provided n = n.preorder.filterMap fun m => (called? provided m).map (⟨·, m⟩) := by
  rw [calls, run_walk_recording, List.nil_append]

theorem map_node_calls (provided : List Handler) (n : Node) :
    (calls provided n).map (·.node) = n.preorder.filter fun m => (called? provided m).isSome := by
  have hg (m : Node) : ((called? provided m).map (Visit.mk · m)).map (·.node) =
      Option.guard (fun m => (called? provided m).isSome) m := by
    cases h : called? provided m <;> simp [Option.guard, h]
  rw [calls_eq, List.map_filterMap, funext hg, List.filterMap_eq_filter]

-- What a visitor does that provides some of the handlers: it calls at most one handler on a node,
-- which is the one for the kind of the node, or else the one for nodes of every kind. A walk does
-- so for all nodes of the tree, each of them once, and leaves out nothing that is a part of a part.
structure Dispatches (provided : List Handler) (n : Node) : Prop where
  visit  : ∀ vs, ((recording provided).visit n).run vs =
    (called? provided n, vs ++ ((called? provided n).map (⟨·, n⟩)).toList)
  walk   : ∀ vs, ((recording provided).walk n).run vs =
    (⟨⟩, vs ++ n.preorder.filterMap fun m => (called? provided m).map (⟨·, m⟩))
  once   : ((calls provided n).map (·.node.name)).Nodup
  all    : (calls provided n).map (·.node) = n.preorder.filter fun m => (called? provided m).isSome
  within : ∀ m, Relation.ReflTransGen (fun n c => c.IsPart n) n m →
    ∀ h, called? provided m = some h → ⟨h, m⟩ ∈ calls provided n

theorem dispatches (provided : List Handler) (n : Node) : Dispatches provided n where
  visit := run_visit_recording provided n
  walk  := run_walk_recording provided n
  once  := by
    have hs : ((calls provided n).map (·.node)).Sublist n.preorder := by
      rw [map_node_calls]
      exact List.filter_sublist
    have hn := n.nodup_names_preorder.sublist (hs.map Node.name)
    rwa [List.map_map] at hn
  all   := map_node_calls provided n
  within m hm h hc := by
    rw [calls_eq]
    exact List.mem_filterMap.mpr ⟨m, Node.mem_preorder_of_isPart hm, by rw [hc]; rfl⟩

theorem run_visit_collecting (line : String) (n : Node) (ss : List NodeSpan) :
    (discard ((collecting line).visit n)).run ss = (⟨⟩, ss ++ [.ofNode line n]) := by
  rw [visit_eq]
  cases n <;> rfl

theorem run_walk_collecting (line : String) (n : Node) (ss : List NodeSpan) :
    ((collecting line).walk n).run ss = (⟨⟩, ss ++ n.spans line) := by
  rw [Node.spans, List.map_eq_flatMap]
  exact run_walk _ (run_visit_collecting line) n ss

end Visitor

def Node.reached (n : Node) : List Node :=
  (((Visitor.recording [.node]).walk n).run []).snd.map (·.node)

theorem Node.reached_eq_preorder (n : Node) : n.reached = n.preorder := by
  have hc (m : Node) : (Visitor.called? [.node] m).isSome := by
    cases m <;> rfl
  exact (Visitor.map_node_calls [.node] n).trans <| List.filter_eq_self.mpr fun m _ => hc m

end BuildShell
