import BuildShell.Proofs.Cursor.History

namespace BuildShell

open Index

namespace Phase

def inner : List Phase :=
  [uri, project, config, requireKey, intask]

def Ordered (ps : List Phase) : Prop :=
  ∃ qs last, ps = qs ++ [last] ∧ qs.Sublist inner ∧ (last = done ∨ last = unstructured)

variable {α : Type} {ps qs : List Phase}

theorem toList_sublist (p : Phase) (a? : Option α) : (a?.map fun _ => p).toList.Sublist [p] := by
  cases a?
  case none   => exact List.nil_sublist _
  case some _ => exact List.Sublist.refl _

theorem Ordered.nodup (h : Ordered ps) : ps.Nodup := by
  obtain ⟨qs, last, rfl, hs, hl⟩ := h
  have hn : (inner ++ [last]).Nodup := by obtain rfl | rfl := hl <;> decide
  exact hn.sublist <| hs.append (List.Sublist.refl _)

end Phase

namespace Front

variable (f : Front)

theorem phases_sublist : f.phases.Sublist [.uri, .project, .config, .requireKey] :=
  (((Phase.toList_sublist ..).append (Phase.toList_sublist ..)).append
    (Phase.toList_sublist ..)).append (List.Sublist.refl _)

end Front

namespace Layout

variable (y : Layout)

theorem phases_sublist :
    (y.phases ++ (y.intask?.map fun _ => Phase.intask).toList).Sublist Phase.inner :=
  y.toFront.phases_sublist.append (Phase.toList_sublist ..)

end Layout

namespace Cursor

structure Agrees (entered : List Phase) (a : Command × Cursor) : Prop where
  ordered      : Phase.Ordered entered
  nodup        : entered.Nodup
  phase        : a.snd.phase ∈ entered.getLast?
  done         : .done ∈ entered.getLast? ↔ a.fst.form = .scopedKey
  unstructured : .unstructured ∈ entered.getLast? ↔ a.fst.form = .unstructured
  found        : a.fst.form = .scopedKey →
    .requireKey ∈ entered ∧ a.snd.reason? = none ∧ a.snd.column = 0 ∧
    ∃ k, a.fst.scopedKey? = some k ∧
      (.uri ∈ entered ↔ k.uri?.isSome) ∧ (.project ∈ entered ↔ k.project?.isSome) ∧
      (.config ∈ entered ↔ k.config?.isSome) ∧ (.intask ∈ entered ↔ k.intask?.isSome)
  givenUp      : a.fst.form = .unstructured →
    a.snd.reason?.isSome ∧ (.requireKey ∈ entered ↔ a.snd.reason? = some "expected a key") ∧
    .intask ∉ entered ∧ 0 ≤ a.snd.pos ∧
    ∃ t ∈ a.snd.line.tokens[a.snd.pos.toNat]?, a.snd.column = t.column

variable {l : TokenLine} {left : List Token} {entered : List Phase} {uri? : Option Uri}
  {reason : Reason}

theorem agrees_reading (l : TokenLine) (y : Layout) :
    Agrees (y.reading l).entered (outcome l (y.reading l)) := by
  have ho : Phase.Ordered (y.reading l).entered := ⟨_, _, rfl, y.phases_sublist, .inl rfl⟩
  exact {
    ordered      := ho
    nodup        := ho.nodup
    phase        := by simp [outcome, Reading.phase, Layout.reading]
    done         := by simp [outcome, Layout.reading]
    unstructured := by simp [outcome, Layout.reading]
    found _      := by
      refine ⟨by simp [Layout.reading, Front.phases], rfl, rfl, y.scopedKey, rfl, ?_⟩
      simp [Layout.reading, Front.phases, Layout.scopedKey, Option.isSome_iff_exists]
    givenUp      := nofun }

theorem getElem?_tokens (h : left <:+ l.body) :
    l.tokens[l.body.length - left.length]? = some (l.front left) := by
  obtain ⟨before, hb⟩ := h
  have hl : l.body.length - left.length = before.length := by simp [← hb]
  rw [hl, TokenLine.tokens, ← hb, List.append_assoc]
  cases left <;> simp [TokenLine.front]

theorem agrees_giveUp (hl : left <:+ l.body)
    (hs : entered.Sublist [.uri, .project, .config, .requireKey])
    (hk : .requireKey ∈ entered ↔ reason = .keyExpected) :
    Agrees (l.giveUp entered uri? reason left).entered
      (outcome l (l.giveUp entered uri? reason left)) := by
  have ho : Phase.Ordered (l.giveUp entered uri? reason left).entered :=
    ⟨_, _, rfl, hs.trans (List.sublist_append_left _ [Phase.intask]), .inr rfl⟩
  have hr : reason = .keyExpected ↔ reason.text = "expected a key" := by cases reason <;> decide
  have hi : Phase.intask ∉ entered := fun h => absurd (hs.subset h) (by decide)
  have hp : (outcome l (l.giveUp entered uri? reason left)).snd.pos =
      (l.body.length - left.length : Nat) :=
    (Int.ofNat_sub hl.length_le).symm
  exact {
    ordered      := ho
    nodup        := ho.nodup
    phase        := by simp [outcome, Reading.phase, TokenLine.giveUp]
    done         := by simp [outcome, TokenLine.giveUp, TokenLine.unstructured]
    unstructured := by simp [outcome, TokenLine.giveUp, TokenLine.unstructured]
    found        := nofun
    givenUp _    := by
      refine ⟨rfl, by simp [TokenLine.giveUp, outcome, hk, hr], by simp [TokenLine.giveUp, hi], ?_⟩
      rw [hp]
      exact ⟨Int.natCast_nonneg _, _, getElem?_tokens hl, rfl⟩ }

-- While tokens are read step by step, the phases are entered in their order and come to the end
-- that fits the command. With a key, they tell which parts it has. Without one, they tell what has
-- been missed, and the column is where reading gave up.
theorem agrees_parse (ts : List Token) :
    let c := ofTokens ts
    c.line.Completes ts ∧
    Yields c.line.tokens.length (Traced.parse.run ({ line := c.line }, []))
      (c.parse.fst, c.parse.snd, c.line.read.entered) ∧
    Agrees c.line.read.entered c.parse := by
  intro c
  refine ⟨TokenLine.completes_ofTokens ts, c.yields_parseTraced, ?_⟩
  rw [parse_eq]
  have h := c.line.reads_read
  have hl := h.left_suffix
  generalize c.line.read = r at h hl
  cases h
  case scopedKey y _ _       => exact agrees_reading c.line y
  case keyExpected f _ _ _ _ => exact agrees_giveUp hl f.phases_sublist (by simp [Front.phases])
  all_goals exact agrees_giveUp hl (by simp) (by simp)

end Cursor

end BuildShell
