import BuildShell.Cursor
import BuildShell.Proofs.Reading.Margin
import BuildShell.Proofs.Report

namespace BuildShell

open Text Token

namespace Text

def trimStart (s : String) : String :=
  .ofList (s.toList.dropWhile isBlank)

def margin (s : String) : Nat :=
  (s.toList.takeWhile isBlank).length

theorem length_eq_margin_add (s : String) : s.length = margin s + (trimStart s).length := by
  rw [margin, trimStart, String.length_ofList, ← List.length_append,
    List.takeWhile_append_dropWhile, String.length_toList]

end Text

variable {line words : String} {cs : List Char} {reason : Reason} {column : Int} {c : Command}

namespace Scan

def openingBrace (line : String) : Token :=
  ⟨.leftBrace, .ofList ['{'], margin line, false⟩

def pastBrace (line : String) (cs : List Char) : Scan :=
  ⟨margin line + 1, cs, true⟩

theorem rest_pastMargin (line : String) : (pastMargin line).rest = (trimStart line).toList := by
  simp [pastMargin, trimStart]

theorem exists_margin_of_brace (h : (trimStart line).toList = '{' :: cs) :
    ∃ leading, (∀ t ∈ leading, t.kind = .whitespace) ∧
      (TokenLine.ofText line).body = leading ++ openingBrace line :: (pastBrace line cs).body := by
  have ⟨leading, hl, hb⟩ := exists_margin line
  have hs := step_leftBrace (s := pastMargin line) (by simp [pastMargin])
    ((rest_pastMargin line).trans h)
  exact ⟨leading, hl, by rw [TokenLine.ofText_body, hb, hs.body_eq]; rfl⟩

end Scan

namespace TokenLine

theorem readKey_cases (l : TokenLine) (leading : List Token) (start : Int) (uri? : Option Uri)
    (ts : List Token) :
    (∃ entered left, l.readKey leading start uri? ts = l.giveUp entered uri? .keyExpected left) ∨
    ((l.readKey leading start uri? ts).fallback? = none ∧
      (l.readKey leading start uri? ts).command.form = .scopedKey) := by
  unfold readKey
  dsimp only
  split
  case h_1 => exact .inl ⟨_, _, rfl⟩
  case h_2 => exact .inr ⟨rfl, rfl⟩

end TokenLine

namespace Command

def Unclosed (line : String) : Prop :=
  ∃ cs, (trimStart line).toList = '{' :: cs ∧ '}' ∉ cs

def Vacant (line : String) : Prop :=
  ∃ cs, (trimStart line).toList = '{' :: '}' :: cs

def frontUri? (line : String) : Option Uri :=
  if (trimStart line).toList.head? = some '{' then
    let body := (trimStart line).toList.tail.takeWhile (· ≠ '}')
    some { text := .ofList body, span := ⟨margin line, margin line + body.length + 2⟩ }
  else
    none

def unclosedUri (line : String) : Uri where
  text      := .ofList (trimStart line).toList.tail
  span      := ⟨margin line, line.length⟩
  malformed := true

theorem Unclosed.not_vacant (h : Unclosed line) : ¬Vacant line := by
  rintro ⟨_, hv⟩
  obtain ⟨_, hu, hn⟩ := h
  obtain ⟨_, rfl⟩ := List.cons.inj (hu.symm.trans hv)
  exact hn List.mem_cons_self

theorem Unclosed.exists_giveUp (h : Unclosed line) :
    ∃ left, Reading.ofText line =
      (TokenLine.ofText line).giveUp [.uri] (unclosedUri line) .uriUnterminated left := by
  obtain ⟨cs, hs, hn⟩ := h
  obtain ⟨leading, hl, hb⟩ := Scan.exists_margin_of_brace hs
  have hr : (Scan.pastBrace line cs).rest = cs ++ [] := by simp [Scan.pastBrace]
  have hs' := Scan.step_uriBody rfl hr hn (by simp [EndsBefore])
  have hu : unclosedUri line = {
      text      := .ofList cs
      span      := ⟨margin line, margin line + 1 + (String.ofList cs).length⟩
      malformed := true } := by
    have hl : line.length = margin line + (cs.length + 1) := by
      rw [length_eq_margin_add, ← String.length_toList, hs, List.length_cons]
    simp [unclosedUri, hs, hl]
    omega
  rw [hs'.body_eq] at hb
  exact ⟨_, hu ▸ (TokenLine.Reads.uriUnterminated hl rfl rfl rfl hb).read_eq⟩

theorem Vacant.exists_giveUp (h : Vacant line) :
    ∃ left, Reading.ofText line = (TokenLine.ofText line).giveUp [.uri] none .uriExpected left := by
  obtain ⟨cs, hs⟩ := h
  obtain ⟨leading, hl, hb⟩ := Scan.exists_margin_of_brace hs
  have hn : ¬Begins [.uriBody] (Scan.pastBrace line ('}' :: cs)).body := by
    rw [Scan.begins_uriBody_iff rfl]
    simp [Scan.pastBrace]
  exact ⟨_, (TokenLine.Reads.bodyExpected hl rfl hb hn).read_eq⟩

variable {body rest : List Char}

theorem frontUri?_of_closed (hs : (trimStart line).toList = '{' :: (body ++ '}' :: rest))
    (hn : '}' ∉ body) : frontUri? line =
      some { text := .ofList body, span := ⟨margin line, margin line + body.length + 2⟩ } := by
  have hb : ∀ c ∈ body, decide (c ≠ '}') := by simpa using fun c hc (he : c = '}') => hn (he ▸ hc)
  have ⟨ht, _⟩ := run_iff _ (body ++ '}' :: rest) |>.mpr ⟨rfl, hb, by simp⟩
  simp only [frontUri?, hs, List.head?_cons, if_true, List.tail_cons, ht]

theorem exists_readKey_of_closed (hs : (trimStart line).toList = '{' :: (body ++ '}' :: rest))
    (hn : '}' ∉ body) (hne : body ≠ []) : ∃ leading start ts,
      Reading.ofText line = (TokenLine.ofText line).readKey leading start (frontUri? line) ts := by
  obtain ⟨leading, hl, hb⟩ := Scan.exists_margin_of_brace hs
  have h₁ := Scan.step_uriBody (s := Scan.pastBrace line (body ++ '}' :: rest)) rfl rfl hn
    (by simpa [EndsBefore])
  have h₂ := Scan.step_rightBrace (s := ⟨margin line + 1 + body.length, '}' :: rest, false⟩) rfl
  rw [h₁.body_eq, Scan.pastBrace, h₂.body_eq] at hb
  have hr := TokenLine.read_of_uri hl rfl rfl Bool.false_ne_true rfl hb
  have hu : frontUri? line = some {
      text := .ofList body
      span := ⟨margin line, (margin line + 1 + body.length : Nat) + (String.ofList ['}']).length⟩
    } := by
    rw [frontUri?_of_closed hs hn, String.length_ofList]
    simp
    omega
  exact ⟨leading, margin line, _, by rw [hu]; exact hr⟩

theorem exists_readKey (hu : ¬Unclosed line) (hv : ¬Vacant line) :
    ∃ leading start ts,
      Reading.ofText line = (TokenLine.ofText line).readKey leading start (frontUri? line) ts := by
  by_cases hh : (trimStart line).toList.head? = some '{'
  case neg =>
    obtain ⟨leading, hl, hb⟩ := Scan.exists_margin line
    have hn : ¬Begins [.leftBrace] (Scan.pastMargin line).body := by
      rwa [Scan.begins_leftBrace_iff (by simp [Scan.pastMargin]), Scan.rest_pastMargin]
    have hb := (TokenLine.ofText_body line).trans hb
    rw [frontUri?, if_neg hh]
    exact ⟨_, _, _, TokenLine.read_of_not_begins hl hb (Scan.not_begins_pastMargin line) hn⟩
  case pos =>
    obtain ⟨cs, hs⟩ := List.head?_eq_some_iff.mp hh
    have hc : '}' ∈ cs := by_contra fun hc => hu ⟨cs, hs, hc⟩
    obtain ⟨body, rest, rfl, hn⟩ := List.eq_append_cons_of_mem hc
    exact exists_readKey_of_closed hs hn fun hb => hv ⟨rest, by simp [hs, hb]⟩

theorem Unclosed.uri?_eq (h : Unclosed line) : (ofText line).uri? = unclosedUri line := by
  obtain ⟨_, hr⟩ := h.exists_giveUp
  rw [ofText, hr]
  rfl

theorem Vacant.uri?_eq (h : Vacant line) : (ofText line).uri? = none := by
  obtain ⟨_, hr⟩ := h.exists_giveUp
  rw [ofText, hr]
  rfl

theorem uri?_eq_frontUri? (hu : ¬Unclosed line) (hv : ¬Vacant line)
    (hf : (ofText line).form = .unstructured) : (ofText line).uri? = frontUri? line := by
  obtain ⟨_, _, _, hr⟩ := exists_readKey hu hv
  rw [ofText, hr] at hf ⊢
  obtain ⟨_, _, h⟩ | ⟨_, hk⟩ := TokenLine.readKey_cases ..
  case inl => rw [h]; rfl
  case inr => simp [hk] at hf

theorem uri?_of_scopedKey (hf : (ofText line).form = .scopedKey) : (ofText line).uri? = none ∧
    ∀ k ∈ (ofText line).scopedKey?, ∀ u ∈ k.uri?, ¬u.malformed := by
  obtain ⟨y, hy, hb⟩ | ⟨hu, _⟩ := ofText_cases line
  case inr => simp [hf] at hu
  rw [ofText_eq_of_layout hy hb]
  refine ⟨rfl, fun k hk u hu => ?_⟩
  obtain rfl : y.scopedKey = k := Option.some.inj hk
  exact (hy.decomposes hb).valid.uri u hu |>.closed

theorem check_cases_front (line : String) :
    (Unclosed line ∧ ∃ column, check line = .error ⟨.uriUnterminated, column⟩) ∨
    (Vacant line ∧ ∃ column, check line = .error ⟨.uriExpected, column⟩) ∨
    (¬Unclosed line ∧ ¬Vacant line ∧
      (((ofText line).form = .scopedKey ∧ ∃ c, check line = .ok c) ∨
        ((ofText line).form = .unstructured ∧
          ∃ column, check line = .error ⟨.keyExpected, column⟩))) := by
  rw [check, ofText]
  by_cases hu : Unclosed line
  case pos =>
    obtain ⟨_, hr⟩ := hu.exists_giveUp
    rw [hr]
    exact .inl ⟨hu, _, rfl⟩
  case neg =>
    by_cases hv : Vacant line
    case pos =>
      obtain ⟨_, hr⟩ := hv.exists_giveUp
      rw [hr]
      exact .inr <| .inl ⟨hv, _, rfl⟩
    case neg =>
      obtain ⟨_, _, _, hr⟩ := exists_readKey hu hv
      refine .inr <| .inr ⟨hu, hv, ?_⟩
      rw [hr]
      obtain ⟨_, _, h⟩ | ⟨hf, hk⟩ := TokenLine.readKey_cases ..
      case inl =>
        rw [h]
        exact .inr ⟨rfl, _, rfl⟩
      case inr =>
        rw [Reading.check, hf]
        exact .inl ⟨hk, _, rfl⟩

theorem check_eq_ok_iff (line : String) (c : Command) :
    check line = .ok c ↔ (c = ofText line ∧ c.form = .scopedKey) := by
  obtain ⟨hf, h, _⟩ | ⟨hf, _, h, _⟩ := check_cases line <;> rw [h]
  case inl => exact ⟨fun h => Except.ok.inj h ▸ ⟨rfl, hf⟩, fun ⟨hc, _⟩ => hc ▸ rfl⟩
  case inr => exact iff_of_false nofun fun ⟨hc, hk⟩ => by simp [hc, hf] at hk

end Command

-- The strict reading as it is done with a cursor: a cursor that has given up is asked for the
-- reason, and where there is none, or an empty one, another text takes its place.
def Cursor.verdict (c : Cursor) (default : String) : Except (String × Int) Command :=
  let (command, c) := c.parse
  if command.isUnstructured then
    .error ((c.reason?.filter (· ≠ "")).getD default, c.column)
  else
    .ok command

theorem Cursor.verdict_eq (default line : String) :
    (Cursor.ofTokens (tokenize line)).verdict default =
    (Command.check line).mapError fun f => (f.reason.text, f.column) := by
  have hr (r : Reason) : ((some r.text).filter (· ≠ "")).getD default = r.text := by
    cases r <;> rfl
  have hl : (Cursor.ofTokens (tokenize line)).line = .ofText line := rfl
  rw [verdict, parse, hl, Command.check, Reading.ofText]
  obtain ⟨_, _, _, h⟩ | ⟨_, _, reason, _, h⟩ := (TokenLine.ofText line).read_cases <;> rw [h]
  case inl => rfl
  case inr => exact congrArg (fun text => Except.error (text, _)) (hr reason)

namespace Command

def Rejected (line words : String) : Prop :=
  ∃ f, check line = .error f ∧ f.reason.text = words

-- What the strict reading says about a line. It agrees with the reading that takes every line. For
-- a line that it rejects, the first characters after the blanks tell the words, and the URI that
-- has been read up to there.
structure Judged (line : String) : Prop where
  accepted    : ∀ c, check line = .ok c ↔ (c = ofText line ∧ c.form = .scopedKey)
  unclosed    : Rejected line "unterminated build URI" ↔ Unclosed line
  unclosedUri : Unclosed line → (ofText line).uri? = unclosedUri line
  vacant      : Rejected line "expected a build URI between braces" ↔ Vacant line
  vacantUri   : Vacant line → (ofText line).uri? = none
  keyless     : Rejected line "expected a key" ↔
    ((ofText line).form = .unstructured ∧ ¬Unclosed line ∧ ¬Vacant line)
  keylessUri  : Rejected line "expected a key" → (ofText line).uri? = frontUri? line
  scopedKey   : (ofText line).form = .scopedKey → (ofText line).uri? = none ∧
    ∀ k ∈ (ofText line).scopedKey?, ∀ u ∈ k.uri?, ¬u.malformed
  verdict     : ∀ default, (Cursor.ofTokens (tokenize line)).verdict default =
    (check line).mapError fun f => (f.reason.text, f.column)

theorem not_rejected (h : check line = .ok c) : ¬Rejected line words := by
  rintro ⟨_, hf, _⟩
  simp [h] at hf

theorem rejected_iff (h : check line = .error ⟨reason, column⟩) (r : Reason) :
    Rejected line r.text ↔ reason = r := by
  have ht : reason.text = r.text ↔ reason = r := by cases reason <;> cases r <;> decide
  simp [Rejected, h, ht]

theorem rejected_iff_front (line : String) :
    (Rejected line (Reason.text .uriUnterminated) ↔ Unclosed line) ∧
    (Rejected line (Reason.text .uriExpected) ↔ Vacant line) ∧
    (Rejected line (Reason.text .keyExpected) ↔
      ((ofText line).form = .unstructured ∧ ¬Unclosed line ∧ ¬Vacant line)) := by
  obtain ⟨hu, _, h⟩ | ⟨hv, _, h⟩ | ⟨hu, hv, ⟨hf, _, h⟩ | ⟨hf, _, h⟩⟩ := check_cases_front line
  case inl         => simp [rejected_iff h, hu, hu.not_vacant]
  case inr.inl     => simp [rejected_iff h, hv, show ¬Unclosed line from (·.not_vacant hv)]
  case inr.inr.inl => simp [not_rejected h, hu, hv, hf]
  case inr.inr.inr => simp [rejected_iff h, hu, hv, hf]

theorem judged (line : String) : Judged line :=
  have ⟨hu, hv, hk⟩ := rejected_iff_front line
  { accepted     := check_eq_ok_iff line
    unclosed     := hu
    unclosedUri  := Unclosed.uri?_eq
    vacant       := hv
    vacantUri    := Vacant.uri?_eq
    keyless      := hk
    keylessUri h := have ⟨hf, hu, hv⟩ := hk.mp h; uri?_eq_frontUri? hu hv hf
    scopedKey    := uri?_of_scopedKey
    verdict text := Cursor.verdict_eq text line }

end Command

end BuildShell
