import BuildShell.Proofs.Cursor.Trace
import BuildShell.Proofs.Reading.Reads

namespace BuildShell

open Index Token

namespace Leaf

theorem readBefore_suffix (mark : Kind) (ts : List Token) : (readBefore mark ts).snd <:+ ts := by
  unfold readBefore
  split
  case h_1 t m us =>
    split
    case isTrue  => exact (List.suffix_cons m us).trans (List.suffix_cons t _)
    case isFalse => exact List.suffix_rfl
  case h_2 => exact List.suffix_rfl

theorem readAfter_cases (mark : Kind) (ts : List Token) :
    readAfter mark ts = (none, ts) ∨
    ∃ m t us, ts = m :: t :: us ∧ readAfter mark ts = (some (.ofToken t), us) := by
  unfold readAfter
  split
  case h_1 m t us =>
    split
    case isTrue  => exact .inr ⟨m, t, us, rfl, rfl⟩
    case isFalse => exact .inl rfl
  case h_2 => exact .inl rfl

end Leaf

theorem Uri.read_suffix (brace : Token) (ts : List Token) : (Uri.read brace ts).snd <:+ ts := by
  unfold Uri.read
  split
  case h_1 => exact List.suffix_rfl
  case h_2 body us =>
    have h := List.suffix_cons body us
    split
    case isTrue => exact List.suffix_rfl
    case isFalse =>
      split
      case isTrue => exact h
      case isFalse =>
        split
        case h_1 => exact List.nil_suffix
        case h_2 closing vs =>
          split
          case isTrue  => exact (List.suffix_cons closing vs).trans h
          case isFalse => exact h

namespace TokenLine

-- A line that has the given tokens, and an end. If the last one of them stands for the end, then it
-- is the end. If not, then none of them is left out, and an end is put right behind them.
structure Completes (l : TokenLine) (ts : List Token) : Prop where
  ended : ∀ us t, ts = us ++ [t] → t.kind = .eof → l.body = us ∧ l.stop = t
  added : ∀ us t, ts = us ++ [t] → t.kind ≠ .eof →
    l.body = ts ∧ l.stop = { kind := .eof, text := "", start := t.stop, malformed := false }
  empty : ts = [] →
    l.body = [] ∧ l.stop = { kind := .eof, text := "", start := 0, malformed := false }

theorem completes_ofTokens (ts : List Token) : (ofTokens ts).Completes ts where
  ended us t hs ht := by
    subst hs
    simp [ofTokens, ht]
  added us t hs ht := by
    subst hs
    simp [ofTokens, ht]
  empty hs         := by
    subst hs
    exact ⟨rfl, rfl⟩

end TokenLine

namespace Cursor

-- A cursor that stands in front of the tokens that are left, and has not given up.
def facing (l : TokenLine) (left : List Token) (phase : Phase) : Cursor where
  line  := l
  pos   := l.body.length - left.length
  phase := phase

def outcome (l : TokenLine) (r : Reading) : Command × Cursor where
  fst := r.command
  snd := {
    line    := l
    pos     := l.body.length - r.left.length
    phase   := r.phase
    reason? := r.fallback?.map (·.reason.text)
    column  := r.fallback?.elim 0 (·.column) }

def tracedOutcome (l : TokenLine) (r : Reading) : Command × Cursor × List Phase :=
  (r.command, (outcome l r).snd, r.entered)

theorem parse_eq (c : Cursor) : c.parse = outcome c.line c.line.read :=
  rfl

variable {l : TokenLine} {c : Cursor} {before left ts : List Token} {t : Token} {phase : Phase}

theorem yields_token (h : c.body = before ++ left) :
    Yields c.line.tokens.length (c.token before.length) (c.line.front left) := by
  have hb : c.line.body = before ++ left := h
  have hl : before.length < c.line.tokens.length := by simp [TokenLine.tokens, hb]
  have ht : c.line.tokens.getD before.length c.line.stop = c.line.front left := by
    rw [TokenLine.tokens, hb, List.append_assoc]
    cases left <;> simp [TokenLine.front]
  rw [token, if_neg (by omega), ← ht]
  exact (yields_resolve hl).map _

theorem yields_element (h : c.body = before ++ t :: left) :
    Yields c.line.tokens.length (c.element before.length) t := by
  have hb : c.line.body = before ++ t :: left := h
  have hl : before.length < c.line.tokens.length := by simp [TokenLine.tokens, hb]
  have ht : c.line.tokens.getD before.length c.line.stop = t := by simp [TokenLine.tokens, hb]
  have hy := (yields_resolve hl).map fun i => c.line.tokens.getD i c.line.stop
  exact ht ▸ hy

theorem pos_eq (h : before ++ left = l.body) :
    (facing l left phase).pos = before.length := by
  simp [facing, ← h]

theorem yields_current (h : left <:+ l.body) (phase : Phase) :
    Yields l.tokens.length (facing l left phase).current (l.front left) := by
  have ⟨before, hb⟩ := h
  rw [current, pos_eq hb]
  exact yields_token (c := facing l left phase) hb.symm

theorem yields_peek (h : t :: ts <:+ l.body) :
    Yields l.tokens.length ((facing l (t :: ts) phase).peek 1) (l.front ts) := by
  have ⟨before, hb⟩ := h
  have hp : (facing l (t :: ts) phase).pos + 1 = (before ++ [t]).length := by
    simp [pos_eq hb]
  rw [peek, hp]
  exact yields_token (c := facing l (t :: ts) phase) (by simp [facing, body, ← hb])

theorem front_kind_iff {k : Kind} (hk : k ≠ .eof) :
    (l.front left).kind = k ↔ Begins [k] left := by
  cases left
  case nil  => simp [TokenLine.front, l.stop_eof, hk.symm, not_begins_nil]
  case cons => simp [TokenLine.front, begins_cons, begins_nil]

theorem yields_check_of_begins {k : Kind} (h : left <:+ l.body) (hk : k ≠ .eof)
    (hb : Begins [k] left) (phase : Phase) :
    Yields l.tokens.length ((facing l left phase).check [k]) true := by
  have hc : [k].contains (l.front left).kind = true := by simpa using (front_kind_iff hk).mpr hb
  exact hc ▸ (yields_current h phase).map _

theorem yields_check_of_not_begins {k : Kind} (h : left <:+ l.body) (hk : k ≠ .eof)
    (hb : ¬Begins [k] left) (phase : Phase) :
    Yields l.tokens.length ((facing l left phase).check [k]) false := by
  have hc : [k].contains (l.front left).kind = false := by
    simpa using mt (front_kind_iff hk).mp hb
  exact hc ▸ (yields_current h phase).map _

theorem yields_advance (h : t :: ts <:+ l.body) (hk : t.kind ≠ .eof) :
    Yields l.tokens.length (facing l (t :: ts) phase).advance (t, facing l ts phase) := by
  have hc : { facing l (t :: ts) phase with pos := (facing l (t :: ts) phase).pos + 1 } =
      facing l ts phase := by
    simp [facing]
    omega
  have hk : (l.front (t :: ts)).kind ≠ .eof := hk
  have hy : Yields l.tokens.length (facing l (t :: ts) phase).advance (t, _) :=
    (yields_current h phase).map _
  rwa [if_neg hk, hc] at hy

theorem yields_takeLeaf (h : t :: ts <:+ l.body) (hk : t.kind ≠ .eof) :
    Yields l.tokens.length (facing l (t :: ts) phase).takeLeaf (.ofToken t, facing l ts phase) :=
  (yields_advance h hk).map _

theorem takeBlanks_eq (c : Cursor) :
    c.takeBlanks = c.advance >>= fun (t, c') =>
      if t.kind = .whitespace then
        c'.takeBlanks.map fun (ts, c) => (t :: ts, c)
      else
        .ok ([], c) := by
  rw [takeBlanks]
  split
  case h_1 h => rw [h]; rfl
  case h_2 h => rw [h]; rfl

theorem yields_takeBlanks (h : left <:+ l.body) (phase : Phase) :
    Yields l.tokens.length (facing l left phase).takeBlanks
      (left.takeWhile (·.kind = .whitespace),
        facing l (left.dropWhile (·.kind = .whitespace)) phase) := by
  induction left
  case nil =>
    have hk : (l.front []).kind ≠ .whitespace := by simp [TokenLine.front, l.stop_eof]
    rw [takeBlanks_eq]
    refine ((yields_current h phase).map _).bind ?_
    simp only [if_neg hk]
    exact yields_ok _ _
  case cons t ts hi =>
    rw [takeBlanks_eq]
    by_cases hk : t.kind = .whitespace
    case pos =>
      refine (yields_advance h (by simp [hk])).bind ?_
      simpa [hk] using (hi <| (List.suffix_cons t ts).trans h).map _
    case neg =>
      refine ((yields_current h phase).map _).bind ?_
      simpa [TokenLine.front, hk] using yields_ok _ _

theorem yields_takeBefore (h : left <:+ l.body) {mark : Kind} (hm : mark ≠ .eof)
    (entered phase : Phase) (ps : List Phase) :
    ∃ phase', Yields l.tokens.length
      ((Traced.takeBefore mark entered).run (facing l left phase, ps))
      ((Leaf.readBefore mark left).fst, facing l (Leaf.readBefore mark left).snd phase',
        ps ++ ((Leaf.readBefore mark left).fst.map fun _ => entered).toList) := by
  by_cases hi : Begins [.identifier] left
  case neg =>
    have hr : Leaf.readBefore mark left = (none, left) :=
      Leaf.readBefore_append (.inl rfl) fun _ h => hi (.trans (by simp) h)
    refine ⟨phase, Traced.yields_look_bind (yields_check_of_not_begins h (by simp) hi phase) ?_⟩
    simpa [hr] using Traced.yields_pure _ none _ ps
  case pos =>
    have hc := yields_check_of_begins h (by simp) hi phase
    obtain ⟨t, ts, rfl, ht⟩ := begins_singleton.mp hi
    by_cases hb : Begins [mark] ts
    case neg =>
      have hr : Leaf.readBefore mark (t :: ts) = (none, t :: ts) :=
        Leaf.readBefore_append (.inl rfl) fun _ h => hb (begins_cons.mp h).right
      refine ⟨phase, Traced.yields_look_bind hc <| Traced.yields_look_bind (yields_peek h) ?_⟩
      rw [if_neg (mt (front_kind_iff hm).mp hb), hr]
      simpa using Traced.yields_pure _ none _ ps
    case pos =>
      obtain ⟨m, us, rfl, hk⟩ := begins_singleton.mp hb
      have hr : Leaf.readBefore mark (t :: m :: us) = (some (.ofToken t), us) := by
        simp [Leaf.readBefore, ht, hk]
      have h' := (List.suffix_cons t _).trans h
      refine ⟨entered, Traced.yields_look_bind hc <| Traced.yields_look_bind (yields_peek h) ?_⟩
      rw [if_pos ((front_kind_iff hm).mpr hb), hr]
      refine Traced.yields_enter_bind <|
        Traced.yields_move_bind (yields_takeLeaf h (by simp [ht])) ?_
      exact Traced.yields_move_bind (yields_advance h' (hk ▸ hm)) <| Traced.yields_pure ..

theorem yields_takeAfter (h : left <:+ l.body) {mark : Kind} (hm : mark ≠ .eof)
    (entered phase : Phase) (ps : List Phase) :
    ∃ phase', Yields l.tokens.length
      ((Traced.takeAfter mark entered).run (facing l left phase, ps))
      ((Leaf.readAfter mark left).fst, facing l (Leaf.readAfter mark left).snd phase',
        ps ++ ((Leaf.readAfter mark left).fst.map fun _ => entered).toList) := by
  by_cases hi : Begins [mark] left
  case neg =>
    have hr : Leaf.readAfter mark left = (none, left) :=
      Leaf.readAfter_append (.inl rfl) fun _ h => hi (.trans (by simp) h)
    refine ⟨phase, Traced.yields_look_bind (yields_check_of_not_begins h hm hi phase) ?_⟩
    simpa [hr] using Traced.yields_pure _ none _ ps
  case pos =>
    have hc := yields_check_of_begins h hm hi phase
    obtain ⟨m, ts, rfl, hk⟩ := begins_singleton.mp hi
    by_cases hb : Begins [.identifier] ts
    case neg =>
      have hr : Leaf.readAfter mark (m :: ts) = (none, m :: ts) :=
        Leaf.readAfter_append (.inl rfl) fun _ h => hb (begins_cons.mp h).right
      refine ⟨phase, Traced.yields_look_bind hc <| Traced.yields_look_bind (yields_peek h) ?_⟩
      rw [if_neg (mt (front_kind_iff (by simp)).mp hb), hr]
      simpa using Traced.yields_pure _ none _ ps
    case pos =>
      obtain ⟨t, us, rfl, ht⟩ := begins_singleton.mp hb
      have hr : Leaf.readAfter mark (m :: t :: us) = (some (.ofToken t), us) := by
        simp [Leaf.readAfter, ht, hk]
      have h' := (List.suffix_cons m _).trans h
      refine ⟨entered, Traced.yields_look_bind hc <| Traced.yields_look_bind (yields_peek h) ?_⟩
      rw [if_pos ((front_kind_iff (by simp)).mpr hb), hr]
      refine Traced.yields_enter_bind <| Traced.yields_move_bind (yields_advance h (hk ▸ hm)) ?_
      exact Traced.yields_move_bind (yields_takeLeaf h' (by simp [ht])) <| Traced.yields_pure ..

theorem yields_takeUri {brace : Token} (h : brace :: ts <:+ l.body) (hk : brace.kind = .leftBrace)
    (phase : Phase) :
    Yields l.tokens.length (facing l (brace :: ts) phase).takeUri
      ((Uri.read brace ts).fst, facing l (Uri.read brace ts).snd phase) := by
  have h₁ := (List.suffix_cons brace ts).trans h
  refine (yields_advance h (by simp [hk])).bind ?_
  by_cases hb : Begins [.uriBody] ts
  case neg =>
    refine (yields_check_of_not_begins h₁ (by simp) hb phase).bind ?_
    rw [Uri.read_of_not_begins hb]
    exact yields_ok _ _
  case pos =>
    refine (yields_check_of_begins h₁ (by simp) hb phase).bind ?_
    obtain ⟨body, us, rfl, hu⟩ := begins_singleton.mp hb
    have h₂ := (List.suffix_cons body us).trans h₁
    refine (yields_advance h₁ (by simp [hu])).bind ?_
    by_cases hm : body.malformed
    case pos =>
      rw [Uri.read_of_unterminated hu hm]
      simp only [hm, if_true]
      exact yields_ok _ _
    case neg =>
      simp only [if_neg hm]
      by_cases hc : Begins [.rightBrace] us
      case neg =>
        refine (yields_check_of_not_begins h₂ (by simp) hc phase).bind ?_
        rw [Uri.read_of_not_closed hu hm hc]
        exact yields_ok _ _
      case pos =>
        refine (yields_check_of_begins h₂ (by simp) hc phase).bind ?_
        obtain ⟨closing, vs, rfl, hcl⟩ := begins_singleton.mp hc
        rw [Uri.read_of_closed hu hm hcl]
        refine (yields_advance h₂ (by simp [hcl])).bind ?_
        exact yields_ok _ _

theorem fail_eq (c : Cursor) (uri? : Option Uri) (reason : Reason) :
    c.fail uri? reason = c.current.map fun t =>
      (c.line.unstructured uri?,
        { c with phase := .unstructured, reason? := some reason.text, column := t.column }) := by
  have hc : ({ c with phase := .unstructured, reason? := some reason.text } : Cursor).current =
      c.current :=
    rfl
  unfold fail giveUp
  cases h : c.current <;> simp only [hc, h] <;> rfl

-- A cursor that gives up makes the same record as a reading that ends where the cursor stands.
theorem log_giveUp (h : left <:+ l.body) (hs : fitsWord l.tokens.length) (entered : List Phase)
    (uri? : Option Uri) (reason : Reason) :
    ((facing l left phase).giveUp uri? reason.text).log =
      (l.giveUp entered uri? reason left).log := by
  have hc : { facing l left phase with
      phase := .unstructured, reason? := some reason.text : Cursor }.current =
      .ok (l.front left) :=
    (yields_current h phase).eq_ok hs
  simp only [giveUp, hc]
  rfl

theorem yields_fail (h : left <:+ l.body) (entered : List Phase) (uri? : Option Uri)
    (reason : Reason) :
    Yields l.tokens.length ((Traced.fail uri? reason).run (facing l left phase, entered))
      (tracedOutcome l (l.giveUp entered uri? reason left)) := by
  have hp : (l.giveUp entered uri? reason left).phase = .unstructured := by
    simp [Reading.phase, TokenLine.giveUp]
  have hy : Yields l.tokens.length ((facing l left .unstructured).fail uri? reason)
      (outcome l (l.giveUp entered uri? reason left)) := by
    rw [fail_eq, outcome, hp]
    exact (yields_current h .unstructured).map _
  exact Traced.yields_enter_bind <| hy.map _

theorem yields_finish {leading : List Token} {start : Int} {uri? : Option Uri}
    {project? config? : Option Leaf} {key : Leaf} {intask? : Option Leaf}
    (h : t :: left <:+ l.body) (entered : List Phase) :
    Yields l.tokens.length
      ((Traced.finish leading start uri? project? config? key intask?).run
        (facing l left phase, entered))
      (tracedOutcome l {
        command := {
          form       := .scopedKey
          scopedKey? := some { uri?, project?, config?, key, intask?, span := ⟨start, t.stop⟩ }
          leading    := leading
          trailing   := left
          tokens     := l.body
          span       := l.span }
        entered := entered ++ [.done]
        left    := left }) := by
  -- The token before the cursor is there, since it has just been read.
  have ⟨before, hb⟩ := h
  have hp : (facing l left .done).pos = (before.length : Int) + 1 := by
    simp [facing, ← hb]
    omega
  have hd : (facing l left .done).body.drop (facing l left .done).pos.toNat = left := by
    rw [hp, body, facing, ← hb, List.append_cons]
    exact List.drop_left' (by simp)
  have he : Yields l.tokens.length
      ((facing l left .done).element ((facing l left .done).pos - 1)) t := by
    rw [hp, Int.add_sub_cancel]
    exact yields_element (c := facing l left .done) hb.symm
  have hy : Yields l.tokens.length
      ((facing l left .done).finish leading start uri? project? config? key intask?) _ :=
    he.bind (yields_ok _ _)
  have hr {r : Reading} (hr : r.entered = entered ++ [.done]) : r.phase = .done := by
    simp [Reading.phase, hr]
  rw [hd] at hy
  rw [tracedOutcome, outcome, hr rfl]
  exact Traced.yields_enter_bind <| hy.map _

theorem yields_takeKey (h : left <:+ l.body) (leading : List Token) (start : Int)
    (uri? : Option Uri) (phase : Phase) :
    Yields l.tokens.length
      ((Traced.takeKey leading start uri?).run
        (facing l left phase, (uri?.map fun _ => .uri).toList))
      (tracedOutcome l (l.readKey leading start uri? left)) := by
  have h₁ := (Leaf.readBefore_suffix .slash left).trans h
  obtain ⟨phase₁, hy₁⟩ := yields_takeBefore h (by simp : Kind.slash ≠ .eof) .project phase
    (uri?.map fun _ => .uri).toList
  refine Traced.yields_bind hy₁ ?_
  rw [TokenLine.readKey]
  generalize Leaf.readBefore .slash left = r₁ at *
  obtain ⟨project?, left₁⟩ := r₁
  have h₂ := (Leaf.readBefore_suffix .colon left₁).trans h₁
  obtain ⟨phase₂, hy₂⟩ := yields_takeBefore h₁ (by simp : Kind.colon ≠ .eof) .config phase₁
    ((uri?.map fun _ => .uri).toList ++ (project?.map fun _ => .project).toList)
  refine Traced.yields_bind hy₂ <| Traced.yields_enter_bind ?_
  dsimp only
  generalize Leaf.readBefore .colon left₁ = r₂ at *
  obtain ⟨config?, left₂⟩ := r₂
  by_cases hb : Begins [.identifier] left₂
  case neg =>
    have hc := yields_check_of_not_begins h₂ (by simp) hb .requireKey
    refine Traced.yields_look_bind hc ?_
    rw [Leaf.read_of_not_begins hb]
    exact yields_fail h₂ _ _ _
  case pos =>
    refine Traced.yields_look_bind (yields_check_of_begins h₂ (by simp) hb .requireKey) ?_
    obtain ⟨key, ts, rfl, hk⟩ := begins_singleton.mp hb
    refine Traced.yields_move_bind (yields_takeLeaf h₂ (by simp [hk])) ?_
    have h₃ := (List.suffix_cons key ts).trans h₂
    have hr : Leaf.read (key :: ts) = (some (.ofToken key), ts) := by simp [Leaf.read, hk]
    obtain ⟨phase₃, hy₃⟩ :=
      yields_takeAfter h₃ (by simp : Kind.doubleColon ≠ .eof) .intask .requireKey _
    refine Traced.yields_bind hy₃ ?_
    rw [hr]
    dsimp only
    obtain hi | ⟨m, t, us, rfl, hi⟩ := Leaf.readAfter_cases .doubleColon ts <;> rw [hi]
    case inl => exact yields_finish h₂ _
    case inr => exact yields_finish ((List.suffix_cons m _).trans h₃) _

-- Reading step by step never looks up a token that is not there, and comes to the same outcome. The
-- phases that are entered on the way are those of the reading.
theorem yields_parseTraced (c : Cursor) :
    Yields c.line.tokens.length (Traced.parse.run ({ line := c.line }, []))
      (tracedOutcome c.line c.line.read) := by
  have hs : c.line.body.dropWhile (·.kind = .whitespace) <:+ c.line.body := List.dropWhile_suffix _
  have hb := yields_takeBlanks (l := c.line) List.suffix_rfl .start
  have hf : facing c.line c.line.body .start = { line := c.line } := by simp [facing]
  rw [hf] at hb
  rw [TokenLine.read]
  refine Traced.yields_move_bind hb ?_
  generalize c.line.body.dropWhile (·.kind = .whitespace) = ts at *
  refine Traced.yields_look_bind (yields_current hs .start) ?_
  by_cases hk : Begins [.leftBrace] ts
  case neg =>
    refine Traced.yields_look_bind (yields_check_of_not_begins hs (by simp) hk .start) ?_
    have hy := yields_takeKey hs (c.line.body.takeWhile (·.kind = .whitespace))
      (c.line.front ts).start none .start
    cases ts
    case nil => exact hy
    case cons t us =>
      have hk : t.kind ≠ .leftBrace := by simpa [begins_cons, begins_nil] using hk
      simp only [if_neg hk]
      exact hy
  case pos =>
    refine Traced.yields_look_bind (yields_check_of_begins hs (by simp) hk .start) ?_
    obtain ⟨brace, us, rfl, hbr⟩ := begins_singleton.mp hk
    have hu := (Uri.read_suffix brace us).trans <| (List.suffix_cons brace us).trans hs
    refine Traced.yields_enter_bind <| Traced.yields_move_bind (yields_takeUri hs hbr .uri) ?_
    simp only [if_pos hbr]
    generalize Uri.read brace us = r at *
    obtain ⟨uri?, left⟩ := r
    cases uri?
    case none => exact yields_fail hu _ _ _
    case some u =>
      by_cases hm : u.malformed
      case pos =>
        simp only [if_pos hm]
        exact yields_fail hu _ _ _
      case neg =>
        simp only [if_neg hm]
        exact yields_takeKey hu _ _ _ _

theorem yields_parseStepwise (c : Cursor) :
    Yields c.line.tokens.length c.parseStepwise c.parse := by
  rw [← Traced.forget_parse]
  exact c.yields_parseTraced.map fun r => (r.fst, r.snd.fst)

theorem parseStepwise_eq_ok (h : fitsWord c.line.tokens.length) : c.parseStepwise = .ok c.parse :=
  c.yields_parseStepwise.eq_ok h

theorem parseStepwise_ne_outside (c : Cursor) : c.parseStepwise ≠ .error .outside :=
  c.yields_parseStepwise.ne_outside

end Cursor

end BuildShell
