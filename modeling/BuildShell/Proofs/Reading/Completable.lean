import BuildShell.Proofs.Reading.Says
import BuildShell.Proofs.Scan.Tokenization

namespace BuildShell

open Text Token

namespace Scan

variable {s s' : Scan} {ts : List Token} {text : String}

theorem Steps.column_front (h : Steps (ofLine text) ts s') :
    ((TokenLine.ofText text).front s'.body).column = (join ts).length + 1 := by
  have hf : (TokenLine.ofText text).front s'.body ∈ s'.tokens.head? := by
    rw [s'.tokens_eq, TokenLine.front, TokenLine.ofText_stop, ← h.stop_eq]
    cases s'.body <;> rfl
  rw [column, start_of_mem_head? hf, h.pos]
  simp [ofLine]

end Scan

namespace Front

variable {f : Front} {s s' : Scan}

theorem StopsAt.of_head?_eq (h : f.StopsAt s.body) (hs : ¬s.inBraces) (hs' : ¬s'.inBraces)
    (hr : s'.rest.head? = s.rest.head?) : f.StopsAt s'.body where
  key := by
    rw [Scan.begins_identifier_iff hs', hr, ← Scan.begins_identifier_iff hs]
    exact h.key
  leading := by
    rw [Scan.begins_whitespace_iff hs', hr, ← Scan.begins_whitespace_iff hs]
    exact h.leading
  uri := by
    rw [Scan.begins_leftBrace_iff hs', hr, ← Scan.begins_leftBrace_iff hs]
    exact h.uri

end Front

namespace Command

def Completable (text : String) : Prop :=
  ∃ t, (ofText (text ++ t)).form = .scopedKey

variable {text w u r : String} {k : ScopedKey} {f : Front} {s : Scan} {ts us : List Token}
  {brace body : Token}

theorem completable_of_decomposes (h : k.Decomposes (text ++ u) w r) : Completable text :=
  ⟨u, says_iff.mpr h |>.form⟩

theorem Completable.of_append (h : Completable (text ++ u)) : Completable text :=
  have ⟨t, h⟩ := h
  ⟨u ++ t, String.append_assoc .. ▸ h⟩

theorem valid_k : Identifier.Valid "k" :=
  ⟨'k', [], rfl, by decide, by simp⟩

theorem completable_front (hf : f.Valid) (hs : ∀ t ∈ f.tokens, t.Scanned) :
    Completable (join f.tokens) := by
  have hr : (f.withKey ⟨"k", .origin⟩ none .origin).StopsAt "" := ScopedKey.stopsAt_empty _
  exact completable_of_decomposes <| hf.decomposes hs valid_k (by simp) hr

theorem completable_brace (hw : ∀ c ∈ w.toList, isBlank c) (hu : '}' ∉ u.toList) :
    Completable (w ++ "\x7b" ++ u) := by
  let k : ScopedKey := { uri? := some { text := u ++ "x" }, key := { text := "k" } }
  have hk : k.Valid := {
    uri     := by simp [k, Uri.valid_iff, hu]
    project := by simp [k]
    config  := by simp [k]
    key     := valid_k
    intask  := by simp [k] }
  have hl : w ++ "\x7b" ++ u ++ "x\x7dk" = w ++ k.render ++ "" := by
    simp [k, ScopedKey.render, Uri.render, String.append_assoc]
  exact completable_of_decomposes ⟨hl, hw, hk, k.stopsAt_empty⟩

theorem completable_leftBrace (hl : ∀ t ∈ ts, t.kind = .whitespace)
    (hk : brace.kind = .leftBrace) (hs : ∀ t ∈ ts ++ [brace], t.Scanned) (hu : '}' ∉ u.toList) :
    Completable (join (ts ++ [brace]) ++ u) := by
  have ⟨hs, hb⟩ := List.forall_mem_append.mp hs
  have hb : brace.text = "\x7b" := by simpa [hk, Kind.Spells] using (hb brace (by simp)).spells
  rw [join_append, join_cons, join_nil, hb, String.append_empty]
  exact completable_brace (isBlank_of_mem_join hl hs) hu

-- Where reading fails: what comes before can be completed, but not if the next character stays.
structure FailsAfter (text before : String) (after : List Char) : Prop where
  text_eq     : text = before ++ .ofList after
  completable : Completable before
  stuck       : ∀ cs, cs ≠ [] → cs.head? = after.head? →
    (ofText (before ++ .ofList cs)).form = .unstructured

def FailsAt (text : String) (column : Int) : Prop :=
  ∃ before after, FailsAfter text before after ∧ column = before.length + 1

-- Since a scan looks no further than at the next character, it is enough that reading fails
-- wherever a scan has come as far, and has the same character before it.
theorem failsAt_of_steps (h : Scan.Steps (.ofLine text) ts s) (hc : Completable (join ts))
    (hn : ∀ line s', Scan.Steps (.ofLine line) ts s' → s'.inBraces = s.inBraces →
      s'.rest.head? = s.rest.head? → s'.rest ≠ [] →
      ∃ r, (TokenLine.ofText line).Reads r ∧ r.command.form = .unstructured) :
    FailsAt text ((TokenLine.ofText text).front s.body).column := by
  refine ⟨join ts, s.rest, ⟨?text, hc, ?stuck⟩, h.column_front⟩
  case text =>
    apply String.toList_injective
    have hr : text.toList = (join ts).toList ++ s.rest := h.rest
    simp [hr]
  case stuck =>
    intro cs hne hh
    have ⟨r, hr, hf⟩ := hn _ _ (h.transfer_line hh) rfl hh hne
    rw [ofText, Reading.ofText, hr.read_eq, hf]

theorem failsAt_front (hf : f.Valid) (hb : (TokenLine.ofText text).body = f.tokens ++ us)
    (hs : f.StopsAt us) : FailsAt text ((TokenLine.ofText text).front us).column := by
  rw [TokenLine.ofText_body] at hb
  obtain ⟨s, h, rfl⟩ := Scan.body_eq_append_iff.mp hb
  have ho := h.outside Bool.false_ne_true hf.kind_ne_of_mem_getLast?
  refine failsAt_of_steps h (completable_front hf fun _ => h.exists_step_of_mem) ?_
  intro line s' h hi hh _
  have ho' : ¬s'.inBraces := hi ▸ ho
  have hb' : (TokenLine.ofText line).body = f.tokens ++ s'.body := by
    rw [TokenLine.ofText_body, h.body_eq]
  exact ⟨_, .keyExpected hf hb' (hs.of_head?_eq ho ho' hh), rfl⟩

theorem failsAt_empty_braces (hl : ∀ t ∈ ts, t.kind = .whitespace) (hk : brace.kind = .leftBrace)
    (hb : (TokenLine.ofText text).body = ts ++ brace :: us) (hn : ¬Begins [.uriBody] us) :
    FailsAt text ((TokenLine.ofText text).front us).column := by
  rw [TokenLine.ofText_body, List.append_cons] at hb
  obtain ⟨s, h, rfl⟩ := Scan.body_eq_append_iff.mp hb
  have ⟨_, _, hlast⟩ := h.exists_last_step
  have hi : s.inBraces := by simp [hlast.braces, hk]
  have hc : Completable (join (ts ++ [brace]) ++ "") :=
    completable_leftBrace hl hk (fun _ => h.exists_step_of_mem) (by simp)
  refine failsAt_of_steps h hc.of_append ?_
  intro line s' h hi' hh _
  have hb' : (TokenLine.ofText line).body = ts ++ brace :: s'.body := by
    rw [TokenLine.ofText_body, h.body_eq, ← List.append_cons]
  rw [Scan.begins_uriBody_iff hi, ← hh, ← Scan.begins_uriBody_iff (hi'.trans hi)] at hn
  exact ⟨_, .bodyExpected hl hk hb' hn, rfl⟩

theorem begins_rightBrace (hu : body.kind = .uriBody) (hm : ¬body.malformed)
    (hb : (TokenLine.ofText text).body = ts ++ body :: us) : Begins [.rightBrace] us := by
  rw [TokenLine.ofText_body] at hb
  have ⟨_, _, hb⟩ := Scan.body_eq_append_iff.mp hb
  obtain ⟨s, h, rfl⟩ := Scan.body_eq_cons_iff.mp hb
  have ⟨_, hr⟩ := h.ends.closed hu hm
  have ⟨_, hr⟩ := List.head?_eq_some_iff.mp hr
  exact Scan.begins_body_iff.mpr ⟨_, _, Scan.step_rightBrace hr, rfl, begins_nil⟩

theorem failsAt_unclosed (hl : ∀ t ∈ ts, t.kind = .whitespace) (hk : brace.kind = .leftBrace)
    (hu : body.kind = .uriBody) (hm : body.malformed)
    (hb : (TokenLine.ofText text).body = ts ++ brace :: body :: us) :
    FailsAt text ((TokenLine.ofText text).front us).column := by
  rw [TokenLine.ofText_body, List.append_cons, List.append_cons] at hb
  obtain ⟨s, h, rfl⟩ := Scan.body_eq_append_iff.mp hb
  have ⟨_, h', hlast⟩ := h.exists_last_step
  have hc : Completable (join (ts ++ [brace] ++ [body])) := by
    have hb : '}' ∉ body.text.toList := by simpa [hu, Kind.Spells] using hlast.spells
    rw [join_append, join_cons, join_nil, String.append_empty]
    exact completable_leftBrace hl hk (fun _ => h'.exists_step_of_mem) hb
  refine failsAt_of_steps h hc ?_
  intro line s' _ _ hh hne
  rw [hlast.ends.unclosed hu hm, List.head?_eq_none_iff] at hh
  contradiction

theorem failsAt_of_check {f : Fallback} (h : check text = .error f) : FailsAt text f.column := by
  have hr : (TokenLine.ofText text).Reads (Reading.ofText text) := TokenLine.reads_read _
  unfold check at h
  generalize Reading.ofText text = r at hr h
  cases hr <;> cases h
  case keyExpected hf hb hs           => exact failsAt_front hf hb hs
  case bodyExpected hl hk hb hn       => exact failsAt_empty_braces hl hk hb hn
  case uriUnterminated hl hk hu hm hb => exact failsAt_unclosed hl hk hu hm hb
  case braceExpected hl hk hu hm hb hn =>
    rw [List.append_cons] at hb
    exact absurd (begins_rightBrace hu hm hb) hn

namespace FailsAfter

variable {before : String} {after : List Char} {n : Nat}

theorem toList_eq (h : FailsAfter text before after) : text.toList = before.toList ++ after := by
  simp [h.text_eq]

theorem completable_take (h : FailsAfter text before after) (hn : n ≤ before.length) :
    Completable (.ofList (text.toList.take n)) := by
  have hc : Completable (.ofList (before.toList.take n) ++ .ofList (before.toList.drop n)) := by
    simpa [← String.ofList_append] using h.completable
  rw [h.toList_eq, List.take_append_of_le_length (by simpa)]
  exact hc.of_append

theorem unstructured_of_lt (h : FailsAfter text before after) (hn : before.length < n)
    (hl : n ≤ text.length) (t : String) :
    (ofText (.ofList (text.toList.take n) ++ t)).form = .unstructured := by
  have hlen : n ≤ before.length + after.length := by simpa [h.text_eq] using hl
  have hc : text.toList.take n = before.toList ++ after.take (n - before.length) := by
    have hb : before.toList.length ≤ n := by
      rw [String.length_toList]
      exact Nat.le_of_lt hn
    rw [h.toList_eq, List.take_append, List.take_of_length_le hb, String.length_toList]
  cases after
  case nil         => simp at hlen; omega
  case cons c rest =>
    have ⟨i, hi⟩ : ∃ i, n - before.length = i + 1 := ⟨n - before.length - 1, by omega⟩
    have hs := h.stuck (c :: (rest.take i ++ t.toList)) (by simp) rfl
    simpa [hc, hi, String.ofList_append, String.append_assoc] using hs

end FailsAfter

-- The column of an error is where the line goes wrong: the longest part of the line that can still
-- be completed is what comes before it.
theorem completable_take_iff {text : String} {f : Fallback} (h : check text = .error f) :
    ∃ n : Nat, f.column = n + 1 ∧ n ≤ text.length ∧
      (∀ m ≤ text.length, Completable (.ofList (text.toList.take m)) ↔ m ≤ n) ∧
      (n < text.length → ∀ t,
        (ofText (.ofList (text.toList.take (n + 1)) ++ t)).form = .unstructured) := by
  have ⟨before, after, hf, hc⟩ := failsAt_of_check h
  refine ⟨before.length, hc, by simp [hf.text_eq], ?longest, ?stuck⟩
  case longest =>
    refine fun m hm => ⟨fun ⟨t, ht⟩ => ?_, hf.completable_take⟩
    by_contra hn
    simp [hf.unstructured_of_lt (Nat.lt_of_not_le hn) hm t] at ht
  case stuck => exact fun hl t => hf.unstructured_of_lt (Nat.lt_succ_self _) hl t

theorem completable_take_digit : check "a/1" = .error ⟨.keyExpected, 3⟩ ∧
    Completable "a/" ∧ ¬Completable "a/1" := by
  have h : check "a/1" = .error ⟨.keyExpected, 3⟩ := by cbv
  obtain ⟨n, hc, _, hn, _⟩ := completable_take_iff h
  obtain rfl : n = 2 := by simp at hc; omega
  exact ⟨h, hn 2 (by decide) |>.mpr (by decide), mt (hn 3 (by decide)).mp (by decide)⟩

end Command

end BuildShell
