import BuildShell.Proofs.Cursor.Reading
import BuildShell.Proofs.Reading.Decomposition
import BuildShell.Proofs.Scan.Append

namespace BuildShell

open Index Token

namespace TokenLine

variable {l : TokenLine} {r : Reading} {ts left : List Token} {t u : Token}

theorem suffix_append_cons (h : l.body = ts ++ t :: left) : left <:+ l.body :=
  h ▸ (List.suffix_cons ..).trans (List.suffix_append ..)

theorem Reads.left_suffix (h : l.Reads r) : r.left <:+ l.body := by
  cases h
  case scopedKey y _ hb     => exact (List.suffix_append y.intask _).trans <| suffix_append_cons hb
  case keyExpected hb _     => exact hb ▸ List.suffix_append ..
  case bodyExpected hb _    => exact suffix_append_cons hb
  case braceExpected hb _   => exact (List.suffix_cons ..).trans <| suffix_append_cons hb
  case uriUnterminated hb   => exact (List.suffix_cons ..).trans <| suffix_append_cons hb

theorem ofTokens_dropLast_tokenize (text : String) :
    ofTokens (tokenize text).dropLast = ofTokens (tokenize text) := by
  obtain ⟨s, hs, he, hj, hp⟩ := Scan.exists_steps_ofLine text
  have hr : ofTokens (tokenize text) = ⟨(tokenize text).dropLast, (Scan.ofLine text).stop, rfl⟩ :=
    ofText_eq text
  have ht : (Scan.ofLine text).stop = ⟨.eof, "", s.pos, false⟩ := by
    rw [← hs.stop_eq, Scan.stop, he.rest]
    rfl
  rw [hr]
  unfold ofTokens
  split
  case h_1 hn =>
    have hn := List.getLast?_eq_none_iff.mp hn
    have hp : s.pos = 0 := by rw [hp, ← hj, hn]; rfl
    simp [ht, hn, hp]
  case h_2 t hl =>
    obtain ⟨_, h⟩ := hs.exists_step_of_mem_getLast? hl
    rw [dif_neg h.ends.not_eof]
    simp [ht, h.stop_token]

end TokenLine

namespace Cursor

structure InPlace (c : Cursor) : Prop where
  nonneg : 0 ≤ c.pos
  le     : c.pos ≤ c.line.tokens.length - 1

-- A computation that looks up nothing but the token at the cursor, and moves the cursor only by
-- advancing it.
inductive Moves {α : Type} : Cursor → Except Fault (α × Cursor) → Prop
  | stay {c a}      : Moves c (.ok (a, c))
  | fail {c f}      : c.current = .error f → Moves c (.error f)
  | step {c c' t x} : c.advance = .ok (t, c') → Moves c' x → Moves c x

section

variable {α : Type} {c c' : Cursor} {t : Token} {f : Fault}

theorem advance_eq_error (h : c.advance = .error f) : c.current = .error f := by
  unfold advance at h
  cases hc : c.current <;> rw [hc] at h <;> cases h
  rfl

theorem advance_eq_ok (h : c.advance = .ok (t, c')) :
    c.current = .ok t ∧ c' = if t.kind = .eof then c else { c with pos := c.pos + 1 } := by
  unfold advance at h
  cases hc : c.current <;> rw [hc] at h <;> cases h
  exact ⟨rfl, rfl⟩

theorem line_of_advance (h : c.advance = .ok (t, c')) : c'.line = c.line := by
  obtain ⟨_, rfl⟩ := advance_eq_ok h
  split <;> rfl

namespace Moves

theorem advance_bind {g : Token × Cursor → Except Fault (α × Cursor)}
    (h : ∀ t c', Moves c' (g (t, c'))) : Moves c (c.advance >>= g) := by
  cases hc : c.advance
  case error   => exact .fail (advance_eq_error hc)
  case ok r    => exact .step hc (h r.fst r.snd)

theorem check_bind {kinds : List Kind} {g : Bool → Except Fault (α × Cursor)}
    (h : ∀ b, Moves c (g b)) : Moves c (c.check kinds >>= g) := by
  unfold check
  cases hc : c.current
  case error => exact .fail hc
  case ok    => exact h _

theorem advance (c : Cursor) : Moves c c.advance := by
  cases hc : c.advance
  case error => exact .fail (advance_eq_error hc)
  case ok    => exact .step hc .stay

theorem takeLeaf (c : Cursor) : Moves c c.takeLeaf := by
  unfold Cursor.takeLeaf
  cases hc : c.advance
  case error => exact .fail (advance_eq_error hc)
  case ok    => exact .step hc .stay

theorem takeUri (c : Cursor) : Moves c c.takeUri := by
  refine advance_bind fun brace c => check_bind fun found => ?_
  cases found
  case false => exact .stay
  case true  =>
    refine advance_bind fun body c => ?_
    by_cases hm : body.malformed
    case pos => simpa [hm] using .stay
    case neg =>
      simp only [if_neg hm]
      refine check_bind fun found => ?_
      cases found
      case false => exact .stay
      case true  => exact advance_bind fun _ _ => .stay

theorem line_eq {x : Except Fault (α × Cursor)} (h : Moves c x) :
    ∀ r, x = .ok r → r.snd.line = c.line := by
  induction h
  case stay         => rintro _ ⟨⟩; rfl
  case fail         => rintro _ ⟨⟩
  case step ha _ hi => exact fun r hr => (hi r hr).trans (line_of_advance ha)

end Moves

theorem yields_token_of_nonneg {pos : Int} (h : 0 ≤ pos) :
    Yields c.line.tokens.length (c.token pos) (c.line.front (c.body.drop pos.toNat)) := by
  obtain ⟨n, rfl⟩ := Int.eq_ofNat_of_zero_le h
  by_cases hn : n ≤ c.body.length
  case pos =>
    have hl : (c.body.take n).length = n := List.length_take_of_le hn
    have hy := yields_token (c := c) (List.take_append_drop n c.body).symm
    rwa [hl] at hy
  case neg =>
    have hd : c.body.drop n = [] := List.drop_eq_nil_of_le (Nat.le_of_not_le hn)
    have hl : c.line.tokens.length = c.body.length + 1 := List.length_append
    rw [Int.toNat_natCast, hd, token, if_pos (by omega)]
    exact yields_ok _ _

namespace InPlace

theorem of_pos_le (hn : 0 ≤ c.pos) (h : c.pos ≤ c.body.length) : c.InPlace where
  nonneg := hn
  le     := by
    have hl : c.line.tokens.length = c.body.length + 1 := List.length_append
    omega

theorem yields_current (h : c.InPlace) :
    Yields c.line.tokens.length c.current (c.line.front (c.body.drop c.pos.toNat)) :=
  yields_token_of_nonneg h.nonneg

theorem advance (h : c.InPlace) (ha : c.advance = .ok (t, c')) : c'.InPlace := by
  obtain ⟨hc, rfl⟩ := advance_eq_ok ha
  split
  case isTrue     => exact h
  case isFalse hk =>
    have hp : c.pos < c.body.length := by
      by_contra hp
      have hd : c.body.drop c.pos.toNat = [] := List.drop_eq_nil_of_le (by omega)
      have hy := hd ▸ h.yields_current
      obtain ht | ⟨_, ht⟩ := hy <;> cases hc.symm.trans ht
      exact hk c.line.stop_eof
    exact .of_pos_le (Int.le_add_one h.nonneg) hp

end InPlace

namespace Moves

variable {x : Except Fault (α × Cursor)}

theorem inPlace (h : Moves c x) (hc : c.InPlace) : ∀ r, x = .ok r → r.snd.InPlace := by
  induction h
  case stay         => rintro _ ⟨⟩; exact hc
  case fail         => rintro _ ⟨⟩
  case step ha _ hi => exact hi (hc.advance ha)

theorem yields (h : Moves c x) (hc : c.InPlace) :
    Yields c.line.tokens.length (x.map fun _ => ()) () := by
  induction h
  case stay         => exact yields_ok _ _
  case fail hf      =>
    have hy := hc.yields_current.map fun _ => ()
    rwa [hf] at hy
  case step ha _ hi => exact line_of_advance ha ▸ hi (hc.advance ha)

end Moves

end

inductive Operation
  | parse
  | current
  | body
  | peek (offset : Int)
  | advance
  | check (kinds : List Kind)
  | enter (phase : Phase)
  | takeLeaf
  | takeUri
  | giveUp (uri? : Option Uri) (reason : String)
  | moveTo (pos : Int)

def settle {α : Type} (c : Cursor) : Except Fault (α × Cursor) → Except Fault Unit × Cursor
  | .ok (_, c') => (.ok (), c')
  | .error f    => (.error f, c)

namespace Operation

def run (c : Cursor) : Operation → Except Fault Unit × Cursor
  | parse             => c.settle c.parseStepwise
  | current           => (c.current.map fun _ => (), c)
  | body              => (.ok (), c)
  | peek offset       => ((c.peek offset).map fun _ => (), c)
  | advance           => c.settle c.advance
  | check kinds       => ((c.check kinds).map fun _ => (), c)
  | enter phase       => (.ok (), c.enter phase)
  | takeLeaf          => c.settle c.takeLeaf
  | takeUri           => c.settle c.takeUri
  | giveUp uri? reason =>
    let (command, c) := (c.giveUp uri? reason).value
    (command.map fun _ => (), c)
  | moveTo pos        => (.ok (), { c with pos })

-- An operation that does not take the cursor or the view off the line.
def Regular : Operation → Prop
  | peek offset => 0 ≤ offset
  | moveTo _    => False
  | _           => True

end Operation

def after (c : Cursor) (os : List Operation) : Cursor :=
  os.foldl (fun c o => (o.run c).snd) c

variable {α : Type} {c : Cursor} {o : Operation} {os : List Operation}

theorem snd_settle_eq {x : Except Fault (α × Cursor)} :
    (c.settle x).snd = c ∨ ∃ r, x = .ok r ∧ (c.settle x).snd = r.snd := by
  cases x
  case error => exact .inl rfl
  case ok r  => exact .inr ⟨r, rfl, rfl⟩

theorem fst_settle_eq (x : Except Fault (α × Cursor)) :
    (c.settle x).fst = x.map fun _ => () := by
  cases x <;> rfl

theorem line_settle {x : Except Fault (α × Cursor)} (h : ∀ r, x = .ok r → r.snd.line = c.line) :
    (c.settle x).snd.line = c.line := by
  obtain hs | ⟨r, hx, hs⟩ := c.snd_settle_eq (x := x) <;> rw [hs]
  exact h r hx

theorem giveUp_eq (c : Cursor) (uri? : Option Uri) (reason : String) :
    (c.giveUp uri? reason).value.fst = c.current.map (fun _ => c.line.unstructured uri?) ∧
    (c.giveUp uri? reason).value.snd.line = c.line ∧
    (c.giveUp uri? reason).value.snd.pos = c.pos := by
  have hc : current { c with phase := .unstructured, reason? := some reason } = c.current := rfl
  unfold giveUp
  cases h : c.current <;> simp [hc, h, Except.map]

theorem eq_parse_of_parseStepwise {r : Command × Cursor} (h : c.parseStepwise = .ok r) :
    r = c.parse := by
  obtain hp | ⟨_, hp⟩ := c.yields_parseStepwise <;> cases h.symm.trans hp
  rfl

theorem line_run (o : Operation) (c : Cursor) : (o.run c).snd.line = c.line := by
  cases o
  case parse    => exact line_settle fun r h => eq_parse_of_parseStepwise h ▸ rfl
  case advance  => exact line_settle (Moves.advance c).line_eq
  case takeLeaf => exact line_settle (Moves.takeLeaf c).line_eq
  case takeUri  => exact line_settle (Moves.takeUri c).line_eq
  case giveUp   => exact (c.giveUp_eq _ _).right.left
  all_goals rfl

theorem line_after (c : Cursor) (os : List Operation) : (c.after os).line = c.line := by
  induction os generalizing c
  case nil          => rfl
  case cons o os hi => exact (hi _).trans (line_run o c)

theorem parse_after (c : Cursor) (os : List Operation) : (c.after os).parse = c.parse := by
  rw [parse_eq, parse_eq, line_after]

structure Safe (c : Cursor) (r : Except Fault Unit × Cursor) : Prop where
  yields  : Yields c.line.tokens.length r.fst ()
  line    : r.snd.line = c.line
  inPlace : r.snd.InPlace

theorem inPlace_parse (c : Cursor) : c.parse.snd.InPlace := by
  have hl := c.line.reads_read.left_suffix.length_le
  have hb : c.parse.snd.body.length = c.line.body.length := rfl
  rw [parse_eq] at hb ⊢
  exact .of_pos_le (by simp only [outcome]; omega) (by rw [hb]; simp only [outcome]; omega)

namespace InPlace

theorem safe_of_moves {x : Except Fault (α × Cursor)} (h : c.InPlace) (hx : Moves c x) :
    c.Safe (c.settle x) where
  yields  := c.fst_settle_eq x ▸ hx.yields h
  line    := line_settle hx.line_eq
  inPlace := by
    obtain hs | ⟨r, hr, hs⟩ := c.snd_settle_eq (x := x) <;> rw [hs]
    case inl => exact h
    case inr => exact hx.inPlace h r hr

theorem safe_parse (h : c.InPlace) : c.Safe (c.settle c.parseStepwise) where
  yields  := c.fst_settle_eq _ ▸ c.yields_parseStepwise.map _
  line    := line_run .parse c
  inPlace := by
    obtain hs | ⟨r, hr, hs⟩ := c.snd_settle_eq (x := c.parseStepwise) <;> rw [hs]
    case inl => exact h
    case inr => exact eq_parse_of_parseStepwise hr ▸ c.inPlace_parse

theorem safe_view {a : α} {x : Except Fault α} (h : c.InPlace)
    (hx : Yields c.line.tokens.length x a) : c.Safe (x.map fun _ => (), c) where
  yields  := hx.map _
  line    := rfl
  inPlace := h

theorem safe_giveUp (h : c.InPlace) (uri? : Option Uri) (reason : String) :
    c.Safe (Operation.run c (.giveUp uri? reason)) :=
  have ⟨hr, hl, hp⟩ := c.giveUp_eq uri? reason
  { yields  := (hr ▸ h.yields_current.map _).map _
    line    := hl
    inPlace := ⟨hp ▸ h.nonneg, hp ▸ hl ▸ h.le⟩ }

theorem safe_run (h : c.InPlace) (ho : o.Regular) : c.Safe (o.run c) := by
  cases o
  case parse       => exact h.safe_parse
  case current     => exact h.safe_view h.yields_current
  case body        => exact ⟨yields_ok _ _, rfl, h⟩
  case peek offset => exact h.safe_view <| yields_token_of_nonneg <| Int.add_nonneg h.nonneg ho
  case advance     => exact h.safe_of_moves <| .advance c
  case check       => exact h.safe_view <| h.yields_current.map _
  case enter       => exact ⟨yields_ok _ _, rfl, h.nonneg, h.le⟩
  case takeLeaf    => exact h.safe_of_moves <| .takeLeaf c
  case takeUri     => exact h.safe_of_moves <| .takeUri c
  case giveUp      => exact h.safe_giveUp _ _
  case moveTo      => cases ho

theorem after (h : c.InPlace) (hs : ∀ o ∈ os, o.Regular) : (c.after os).InPlace := by
  induction os generalizing c
  case nil          => exact h
  case cons o os hi =>
    have ⟨ho, hos⟩ := List.forall_mem_cons.mp hs
    exact hi (h.safe_run ho).inPlace hos

end InPlace

theorem inPlace_ofTokens (ts : List Token) : (ofTokens ts).InPlace :=
  .of_pos_le (Int.le_refl 0) (Int.natCast_nonneg _)

-- As long as a cursor is only used on its line, no operation looks up a token that is not there, and
-- the cursor stays at a token of the line, which does not change and keeps its end. Reading the line
-- forgets whatever came before, also where the cursor was put. It does not need the end of the line
-- among the tokens of a text.
theorem safe_and_forgetful (ts : List Token) :
    (∀ os : List Operation, (∀ o ∈ os, o.Regular) →
      let c := (ofTokens ts).after os
      0 ≤ c.pos ∧ c.pos ≤ c.line.tokens.length - 1 ∧
      ∀ o : Operation, o.Regular → Yields c.line.tokens.length (o.run c).fst ()) ∧
    (∀ os, ((ofTokens ts).after os).line = (ofTokens ts).line) ∧
    (ofTokens ts).line.Completes ts ∧
    (∃ t ∈ (ofTokens ts).line.tokens.getLast?, t.kind = .eof) ∧
    (∀ os,
      let c := (ofTokens ts).after os
      c.parse = (ofTokens ts).parse ∧
      Yields c.line.tokens.length c.parseStepwise (ofTokens ts).parse) ∧
    ∀ text, (ofTokens (tokenize text).dropLast).parse = (ofTokens (tokenize text)).parse := by
  refine ⟨?safe, line_after _, TokenLine.completes_ofTokens ts, ?eof, ?parse, ?text⟩
  case safe =>
    intro os hs c
    have hc : c.InPlace := (inPlace_ofTokens ts).after hs
    exact ⟨hc.nonneg, hc.le, fun o ho => (hc.safe_run ho).yields⟩
  case eof => exact ⟨_, List.getLast?_concat, (ofTokens ts).line.stop_eof⟩
  case parse =>
    intro os c
    have hp : c.parse = (ofTokens ts).parse := parse_after _ os
    exact ⟨hp, hp ▸ c.yields_parseStepwise⟩
  case text =>
    intro text
    rw [ofTokens, ofTokens, TokenLine.ofTokens_dropLast_tokenize]

end Cursor

end BuildShell
