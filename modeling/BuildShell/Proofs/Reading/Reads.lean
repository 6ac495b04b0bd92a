import BuildShell.Proofs.Reading.Layout
import BuildShell.Proofs.Text

namespace BuildShell

open Text Token

variable {l : TokenLine} {t : Token} {ts us left : List Token} {mark : Kind} {r : Reading}

namespace Leaf

theorem readBefore_append (h : Segment [.identifier, mark] us)
    (hn : us = [] → ¬Begins [.identifier, mark] ts) :
    readBefore mark (us ++ ts) = (us.head?.map .ofToken, ts) := by
  by_cases hu : us = []
  case pos =>
    subst hu
    have hn := hn rfl
    match ts with
    | [] | [_]    => rfl
    | t :: m :: _ =>
      simp only [begins_cons, begins_nil, and_true] at hn
      simp [readBefore, if_neg hn]
  case neg =>
    have ⟨t, m, hu, ht, hm⟩ := h.eq_pair hu
    simp [hu, readBefore, ht, hm]

theorem readAfter_append (h : Segment [mark, .identifier] us)
    (hn : us = [] → ¬Begins [mark, .identifier] ts) :
    readAfter mark (us ++ ts) = (us.getLast?.map .ofToken, ts) := by
  by_cases hu : us = []
  case pos =>
    subst hu
    have hn := hn rfl
    match ts with
    | [] | [_]    => rfl
    | m :: t :: _ =>
      simp only [begins_cons, begins_nil, and_true] at hn
      simp [readAfter, if_neg hn]
  case neg =>
    have ⟨m, t, hu, hm, ht⟩ := h.eq_pair hu
    simp [hu, readAfter, ht, hm]

theorem read_of_not_begins (h : ¬Begins [.identifier] ts) : read ts = (none, ts) := by
  cases ts
  case nil  => rfl
  case cons =>
    simp only [begins_cons, begins_nil, and_true] at h
    simp [read, if_neg h]

end Leaf

namespace Uri

theorem read_of_not_begins (h : ¬Begins [.uriBody] ts) : read t ts = (none, ts) := by
  cases ts
  case nil  => rfl
  case cons =>
    simp only [begins_cons, begins_nil, and_true] at h
    simp [read, h]

variable {body : Token}

theorem read_of_unterminated (hb : body.kind = .uriBody) (hm : body.malformed) :
    read t (body :: ts) =
    (some { text := body.text, span := ⟨t.start, body.stop⟩, malformed := true }, ts) := by
  simp [read, hb, hm]

theorem read_of_not_closed (hb : body.kind = .uriBody) (hm : ¬body.malformed)
    (hn : ¬Begins [.rightBrace] ts) : read t (body :: ts) = (none, ts) := by
  cases ts
  case nil  => simp [read, hb, hm]
  case cons =>
    simp only [begins_cons, begins_nil, and_true] at hn
    simp [read, hb, hm, hn]

theorem read_of_closed {closing : Token} (hb : body.kind = .uriBody) (hm : ¬body.malformed)
    (hc : closing.kind = .rightBrace) :
    read t (body :: closing :: ts) = (ofTokens? [t, body, closing], ts) := by
  simp [read, hb, hm, hc, ofTokens?]

end Uri

namespace TokenLine

variable {leading : List Token} {start : Int} {brace body : Token} {f : Front} {y : Layout}

theorem readKey_of_stopsAt (hf : f.Valid) (hs : f.StopsAt left) :
    l.readKey leading start f.uri? (f.project ++ (f.config ++ left)) =
    l.giveUp f.phases f.uri? .keyExpected left := by
  have hn {k} : ¬Begins [.identifier, k] left :=
    fun h => hs.key <| List.IsPrefix.trans (by simp) h
  have hp : ¬Begins [.identifier, .slash] (f.config ++ left) :=
    hf.config.not_begins (by decide) (by decide) fun _ => hn
  rw [readKey, Leaf.readBefore_append hf.project fun _ => hp]
  simp only [Leaf.readBefore_append hf.config fun _ => hn, Leaf.read_of_not_begins hs.key]
  rfl

theorem readKey_of_layout (hy : y.Valid) :
    l.readKey y.leading y.first.start y.uri?
      (y.project ++ (y.config ++ y.key :: (y.intask ++ y.trailing))) = y.reading l := by
  have hn {k} (hk : ¬[k] <+: [.doubleColon, .identifier])
      (hn : y.intask = [] → ¬Begins [k] y.trailing) :
      ¬Begins [.identifier, k] (y.key :: (y.intask ++ y.trailing)) := by
    rw [begins_cons, not_and]
    exact fun _ => hy.intask.not_begins hk (by simp) hn
  have hc (hc : y.config = []) : ¬Begins [.identifier, .colon] _ :=
    hn (by decide) fun hi => hy.noConfig hi hc
  have hp (hp : y.project = []) : ¬Begins [.identifier, .slash] (y.config ++ _) :=
    hy.config.not_begins (by decide) (by decide) fun hc =>
      hn (by decide) fun hi => hy.noProject hi hc hp
  rw [readKey, Leaf.readBefore_append hy.project hp]
  simp only [Leaf.readBefore_append hy.config hc, Leaf.read, hy.key, if_true,
    Leaf.readAfter_append hy.intask hy.noIntask]
  rfl

theorem leading_eq (hl : ∀ t ∈ leading, t.kind = .whitespace) (hb : l.body = leading ++ ts)
    (hn : ¬Begins [.whitespace] ts) :
    l.body.takeWhile (·.kind = .whitespace) = leading ∧
    l.body.dropWhile (·.kind = .whitespace) = ts := by
  refine run_iff _ _ |>.mpr ⟨hb, by simpa using hl, ?_⟩
  cases ts
  case nil => simp
  case cons => simpa [begins_cons, begins_nil] using hn

theorem read_of_brace (hl : ∀ t ∈ leading, t.kind = .whitespace) (hk : brace.kind = .leftBrace)
    (hb : l.body = leading ++ brace :: ts) :
    l.read =
      match Uri.read brace ts with
      | (none, left) => l.giveUp [.uri] none .uriExpected left
      | (some u, left) =>
        if u.malformed then
          l.giveUp [.uri] (some u) .uriUnterminated left
        else
          l.readKey leading brace.start (some u) left := by
  have ⟨ht, hd⟩ := leading_eq hl hb (by simp [begins_cons, hk])
  simp only [read, ht, hd, hk, front, if_true]
  rfl

theorem read_of_uri {closing : Token} (hl : ∀ t ∈ leading, t.kind = .whitespace)
    (hbr : brace.kind = .leftBrace) (hbo : body.kind = .uriBody) (hm : ¬body.malformed)
    (hcl : closing.kind = .rightBrace) (hb : l.body = leading ++ brace :: body :: closing :: left) :
    l.read = l.readKey leading brace.start (Uri.ofTokens? [brace, body, closing]) left := by
  rw [read_of_brace hl hbr hb]
  simp [Uri.read_of_closed hbo hm hcl, Uri.ofTokens?]

theorem read_of_not_begins (hl : ∀ t ∈ leading, t.kind = .whitespace) (hb : l.body = leading ++ ts)
    (hw : ¬Begins [.whitespace] ts) (hn : ¬Begins [.leftBrace] ts) :
    l.read = l.readKey leading (l.front ts).start none ts := by
  have ⟨ht, hd⟩ := leading_eq hl hb hw
  rw [read, ht, hd]
  cases ts
  case nil    => rfl
  case cons t ts =>
    have hk : t.kind ≠ .leftBrace := by simpa [begins_cons, begins_nil] using hn
    simp only [if_neg hk]

theorem read_eq_readKey (hf : f.Valid) (hb : l.body = f.tokens ++ left)
    (hn : f.uri = [] → ∀ k ∈ [Kind.whitespace, .leftBrace],
      ¬Begins [k] (f.project ++ (f.config ++ left))) :
    l.read = l.readKey f.leading (l.front (f.uri ++ (f.project ++ (f.config ++ left)))).start f.uri?
      (f.project ++ (f.config ++ left)) := by
  have hb : l.body = f.leading ++ (f.uri ++ (f.project ++ (f.config ++ left))) := by
    simpa [Front.tokens] using hb
  by_cases hu : f.uri = []
  case pos =>
    simp only [Front.uri?, hu, List.nil_append] at hb hn ⊢
    have hw := hn trivial .whitespace (by simp)
    have hu := hn trivial .leftBrace (by simp)
    exact read_of_not_begins hf.leading hb hw hu
  case neg =>
    obtain ⟨brace, body, closing, hu, hbr, hbo, hcl, hm⟩ := hf.uri_eq hu
    rw [hu] at hb
    rw [read_of_uri hf.leading hbr hbo hm hcl hb]
    simp [Front.uri?, hu, front]

theorem front_append_cons (us : List Token) : l.front (us ++ t :: ts) = us.headD t := by
  cases us <;> rfl

theorem front_eq_first (ts : List Token) :
    l.front (y.uri ++ (y.project ++ (y.config ++ y.key :: ts))) = y.first := by
  simpa [Layout.first] using front_append_cons (y.uri ++ (y.project ++ y.config))

theorem Reads.read_eq (h : l.Reads r) : l.read = r := by
  cases h
  case scopedKey y hy hb =>
    have hb : l.body = y.toFront.tokens ++ y.key :: (y.intask ++ y.trailing) := hb
    rw [read_eq_readKey hy.toValid hb ?hn]
    case hn =>
      intro _ k hk
      refine hy.toValid.not_begins (by aesop) fun _ _ => ?_
      rw [begins_cons, hy.key]
      aesop
    rw [front_eq_first, readKey_of_layout hy]
  case keyExpected f left hf hb hs =>
    rw [read_eq_readKey hf hb ?hn, readKey_of_stopsAt hf hs]
    case hn =>
      intro hu k hk
      obtain rfl | rfl : k = .whitespace ∨ k = .leftBrace := by simpa using hk
      case inl => exact hf.not_begins (by simp) (hs.leading hu)
      case inr => exact hf.not_begins (by simp) (hs.uri hu)
  case bodyExpected hl hk hb hn =>
    rw [read_of_brace hl hk hb, Uri.read_of_not_begins hn]
  case braceExpected hl hk hu hm hb hn =>
    rw [read_of_brace hl hk hb, Uri.read_of_not_closed hu hm hn]
  case uriUnterminated hl hk hu hm hb =>
    rw [read_of_brace hl hk hb, Uri.read_of_unterminated hu hm]
    rfl

theorem exists_reads_of_uri (hl : ∀ t ∈ leading, t.kind = .whitespace)
    (hu : Segment [.leftBrace, .uriBody, .rightBrace] us)
    (hm : ∀ t ∈ us, t.kind = .uriBody → ¬t.malformed)
    (hn : us = [] → ¬Begins [.whitespace] ts ∧ ¬Begins [.leftBrace] ts)
    (hb : l.body = leading ++ (us ++ ts)) : ∃ r, l.Reads r := by
  -- What is left is cut into the parts one by one, each of which is taken if it is there.
  obtain ⟨project, ps, hps, hp, hpn⟩ := exists_segment .identifier [.slash] ts
  obtain ⟨config, left, hleft, hc, hcn⟩ := exists_segment .identifier [.colon] ps
  let f : Front := ⟨leading, us, project, config⟩
  have hf : f.Valid := ⟨hl, hu, hm, hp, hc⟩
  have hb : l.body = f.tokens ++ left := by simp [hb, hps, hleft, f, Front.tokens]
  by_cases hk : Begins [.identifier] left
  case neg =>
    have hs (hp : project = []) (hc : config = []) : ts = left := by simp [hps, hleft, hp, hc]
    refine ⟨_, .keyExpected hf hb ⟨hk, ?_, ?_⟩⟩
    case refine_1 => exact fun hu hp hc => hs hp hc ▸ (hn hu).left
    case refine_2 => exact fun hu hp hc => hs hp hc ▸ (hn hu).right
  case pos =>
    obtain ⟨key, rest, hleft, hk⟩ := begins_singleton.mp hk
    obtain ⟨intask, trailing, hrest, hi, hin⟩ := exists_segment .doubleColon [.identifier] rest
    let y : Layout := { f with key, intask, trailing }
    have hy : y.Valid := {
      hf with
      key       := hk
      intask    := hi
      noIntask  := hin
      noConfig  := fun hi hc h => hcn hc <| by simp_all [begins_cons, y]
      noProject := fun hi hc hp h => hpn hp <| by simp_all [begins_cons, y, f] }
    exact ⟨_, .scopedKey hy (by simp [hb, hleft, hrest, y, Layout.tokens])⟩

theorem exists_reads (l : TokenLine) : ∃ r, l.Reads r := by
  have ⟨hb, hl, hn⟩ := run_iff (·.kind = .whitespace) l.body |>.mp ⟨rfl, rfl⟩
  generalize l.body.takeWhile (·.kind = .whitespace) = leading at hb hl
  generalize l.body.dropWhile (·.kind = .whitespace) = ts at hb hn
  have hl : ∀ t ∈ leading, t.kind = .whitespace := by simpa using hl
  have hn : ¬Begins [.whitespace] ts := by
    rw [begins_singleton]
    rintro ⟨t, us, rfl, hk⟩
    simp [hk] at hn
  by_cases h₁ : Begins [.leftBrace] ts
  case neg => exact exists_reads_of_uri hl (.inl rfl) (by simp) (fun _ => ⟨hn, h₁⟩) hb
  case pos =>
    obtain ⟨brace, us, rfl, hbr⟩ := begins_singleton.mp h₁
    by_cases h₂ : Begins [.uriBody] us
    case neg => exact ⟨_, .bodyExpected hl hbr hb h₂⟩
    case pos =>
      obtain ⟨body, vs, rfl, hbo⟩ := begins_singleton.mp h₂
      by_cases hm : body.malformed
      case pos => exact ⟨_, .uriUnterminated hl hbr hbo hm hb⟩
      case neg =>
        by_cases h₃ : Begins [.rightBrace] vs
        case neg => exact ⟨_, .braceExpected hl hbr hbo hm hb h₃⟩
        case pos =>
          obtain ⟨closing, ws, rfl, hcl⟩ := begins_singleton.mp h₃
          have hu : Segment [.leftBrace, .uriBody, .rightBrace] [brace, body, closing] :=
            .inr (by simp [hbr, hbo, hcl])
          exact exists_reads_of_uri hl hu (by simp [hbr, hcl, hm]) (by simp) hb

theorem read_eq_iff : l.read = r ↔ l.Reads r where
  mp  := by
    rintro rfl
    have ⟨r, h⟩ := l.exists_reads
    exact h.read_eq ▸ h
  mpr := Reads.read_eq

theorem reads_read (l : TokenLine) : l.Reads l.read :=
  read_eq_iff.mp rfl

theorem read_cases (l : TokenLine) :
    (∃ y : Layout, y.Valid ∧ l.body = y.tokens ∧ l.read = y.reading l) ∨
    ∃ entered uri? reason left, l.read = l.giveUp entered uri? reason left := by
  have h := l.reads_read
  generalize l.read = r at h
  cases h
  case scopedKey y hy hb => exact .inl ⟨y, hy, hb, rfl⟩
  all_goals exact .inr ⟨_, _, _, _, rfl⟩

end TokenLine

end BuildShell
