import BuildShell.Cursor
import BuildShell.Proofs.Reading.Margin
import BuildShell.Proofs.Scan.Append

namespace BuildShell

open Text Token

def Span.shift (n : Nat) (s : Span) : Span :=
  ⟨s.start + n, s.stop + n⟩

def Leaf.shift (n : Nat) (l : Leaf) : Leaf :=
  { l with span := l.span.shift n }

def Uri.shift (n : Nat) (u : Uri) : Uri :=
  { u with toLeaf := u.toLeaf.shift n }

def ScopedKey.shift (n : Nat) (k : ScopedKey) : ScopedKey where
  uri?     := k.uri?.map (·.shift n)
  project? := k.project?.map (·.shift n)
  config?  := k.config?.map (·.shift n)
  key      := k.key.shift n
  intask?  := k.intask?.map (·.shift n)
  span     := k.span.shift n

def Fallback.shift (n : Nat) (f : Fallback) : Fallback :=
  { f with column := f.column + n }

variable {n : Nat} {l l' : TokenLine} {leading leading' ts : List Token} {w line : String}

namespace Token

variable (t : Token)

@[simp]
theorem kind_shift : (t.shift n).kind = t.kind :=
  rfl

@[simp]
theorem text_shift : (t.shift n).text = t.text :=
  rfl

@[simp]
theorem start_shift : (t.shift n).start = t.start + n :=
  rfl

@[simp]
theorem malformed_shift : (t.shift n).malformed = t.malformed :=
  rfl

@[simp]
theorem stop_shift : (t.shift n).stop = t.stop + n := by
  simp only [stop, start_shift, text_shift]
  omega

theorem join_map_shift (ts : List Token) : join (ts.map (·.shift n)) = join ts := by
  simp [join, Function.comp_def]

theorem begins_map_shift {kinds : List Kind} :
    Begins kinds (ts.map (·.shift n)) ↔ Begins kinds ts := by
  simp [Begins, Function.comp_def]

@[simp]
theorem ofToken_shift : Leaf.ofToken (t.shift n) = (Leaf.ofToken t).shift n := by
  simp [Leaf.ofToken, Leaf.shift, span, Span.shift]

end Token

namespace Uri

theorem malformed_shift (u : Uri) : (u.shift n).malformed = u.malformed :=
  rfl

theorem read_map_shift (brace : Token) (ts : List Token) :
    read (brace.shift n) (ts.map (·.shift n)) =
    ((read brace ts).fst.map (·.shift n), (read brace ts).snd.map (·.shift n)) := by
  cases ts
  case nil => rfl
  case cons body ts =>
    by_cases hb : body.kind = .uriBody
    case neg => simp [read, hb]
    case pos =>
      by_cases hm : body.malformed
      case pos => simp [read, hb, hm, shift, Leaf.shift, Span.shift]
      case neg =>
        cases ts
        case nil => simp [read, hb, hm]
        case cons closing ts =>
          by_cases hc : closing.kind = .rightBrace
          case neg => simp [read, hb, hm, hc]
          case pos => simp [read, hb, hm, hc, shift, Leaf.shift, Span.shift]

end Uri

namespace Leaf

variable (mark : Kind) (ts : List Token)

theorem read_map_shift : read (ts.map (·.shift n)) =
    ((read ts).fst.map (·.shift n), (read ts).snd.map (·.shift n)) := by
  cases ts
  case nil => rfl
  case cons t ts =>
    by_cases ht : t.kind = .identifier
    case pos => simp [read, ht]
    case neg => simp [read, ht]

theorem readBefore_map_shift : readBefore mark (ts.map (·.shift n)) =
    ((readBefore mark ts).fst.map (·.shift n), (readBefore mark ts).snd.map (·.shift n)) := by
  match ts with
  | [] | [_] => rfl
  | t :: m :: ts =>
    by_cases h : t.kind = .identifier ∧ m.kind = mark
    case pos => simp [readBefore, h]
    case neg => simp only [readBefore, List.map_cons, kind_shift, h, if_false, Option.map_none]

theorem readAfter_map_shift : readAfter mark (ts.map (·.shift n)) =
    ((readAfter mark ts).fst.map (·.shift n), (readAfter mark ts).snd.map (·.shift n)) := by
  match ts with
  | [] | [_] => rfl
  | m :: t :: ts =>
    by_cases h : m.kind = mark ∧ t.kind = .identifier
    case pos => simp [readAfter, h]
    case neg => simp only [readAfter, List.map_cons, kind_shift, h, if_false, Option.map_none]

end Leaf

structure Reading.Shifts (w : String) (r r' : Reading) : Prop where
  form       : r'.command.form = r.command.form
  scopedKey? : r'.command.scopedKey? = r.command.scopedKey?.map (·.shift w.length)
  uri?       : r'.command.uri? = r.command.uri?.map (·.shift w.length)
  leading    : r.command.form = .scopedKey →
    join r'.command.leading = w ++ join r.command.leading
  trailing   : r.command.form = .scopedKey →
    r'.command.trailing = r.command.trailing.map (·.shift w.length)
  entered    : r'.entered = r.entered
  fallback?  : r'.fallback? = r.fallback?.map (·.shift w.length)

namespace TokenLine

theorem front_map_shift (hs : l'.stop = l.stop.shift n) (ts : List Token) :
    l'.front (ts.map (·.shift n)) = (l.front ts).shift n := by
  cases ts
  case nil  => exact hs
  case cons => rfl

variable {uri? : Option Uri} (hs : l'.stop = l.stop.shift w.length)

include hs

theorem shifts_giveUp (entered : List Phase) (uri? : Option Uri) (reason : Reason)
    (left : List Token) :
    Reading.Shifts w (l.giveUp entered uri? reason left)
      (l'.giveUp entered (uri?.map (·.shift w.length)) reason (left.map (·.shift w.length))) where
  form       := rfl
  scopedKey? := rfl
  uri?       := rfl
  leading    := nofun
  trailing   := nofun
  entered    := rfl
  fallback?  := by
    simp [giveUp, front_map_shift hs, Fallback.shift, column]
    omega

theorem shifts_readKey (hl : join leading' = w ++ join leading) (start : Int) (uri? : Option Uri)
    (ts : List Token) :
    Reading.Shifts w (l.readKey leading start uri? ts)
      (l'.readKey leading' (start + w.length) (uri?.map (·.shift w.length))
        (ts.map (·.shift w.length))) := by
  unfold readKey
  simp only [Leaf.readBefore_map_shift, Leaf.read_map_shift, Leaf.readAfter_map_shift,
    Option.map_map, Function.comp_def]
  generalize Leaf.readBefore .slash ts = project
  generalize Leaf.readBefore .colon project.snd = config
  generalize Leaf.read config.snd = key
  generalize Leaf.readAfter .doubleColon key.snd = intask
  obtain ⟨_ | key, left⟩ := key
  case none => exact shifts_giveUp hs _ _ _ _
  case some =>
    exact {
      form       := rfl
      scopedKey? := by obtain ⟨_ | _, _⟩ := intask <;> rfl
      uri?       := rfl
      leading _  := hl
      trailing _ := rfl
      entered    := rfl
      fallback?  := rfl }

theorem shifts_read (hl : ∀ t ∈ leading, t.kind = .whitespace)
    (hl' : ∀ t ∈ leading', t.kind = .whitespace) (hb : l.body = leading ++ ts)
    (hb' : l'.body = leading' ++ ts.map (·.shift w.length)) (hn : ¬Begins [.whitespace] ts)
    (hj : join leading' = w ++ join leading) : Reading.Shifts w l.read l'.read := by
  have hm {k : Kind} (h : ¬Begins [k] ts) : ¬Begins [k] (ts.map (·.shift w.length)) :=
    mt begins_map_shift.mp h
  by_cases hk : Begins [.leftBrace] ts
  case neg =>
    rw [read_of_not_begins hl hb hn hk, read_of_not_begins hl' hb' (hm hn) (hm hk),
      front_map_shift hs]
    exact shifts_readKey hs hj _ _ _
  case pos =>
    obtain ⟨brace, us, rfl, hbr⟩ := begins_singleton.mp hk
    have hbr' : (brace.shift w.length).kind = .leftBrace := hbr
    rw [read_of_brace hl hbr hb, read_of_brace hl' hbr' hb', Uri.read_map_shift]
    generalize Uri.read brace us = r
    obtain ⟨_ | u, left⟩ := r
    case none => exact shifts_giveUp hs _ _ _ _
    case some =>
      by_cases hm : u.malformed
      case pos =>
        simp only [Option.map_some, Uri.malformed_shift, hm, if_true]
        exact shifts_giveUp hs _ _ _ _
      case neg =>
        simp only [Option.map_some, Uri.malformed_shift, hm]
        exact shifts_readKey hs hj _ _ _

end TokenLine

namespace Scan

theorem body_shift (s : Scan) : (s.shift n).body = s.body.map (·.shift n) := by
  rw [body, body, tokens_shift, List.map_dropLast]

theorem pastMargin_append (hw : ∀ c ∈ w.toList, isBlank c) (line : String) :
    pastMargin (w ++ line) = (pastMargin line).shift w.length := by
  simp only [pastMargin, shift, String.toList_append, List.takeWhile_append_of_pos hw,
    List.dropWhile_append_of_pos hw, List.length_append, String.length_toList, Nat.add_comm]

end Scan

theorem Reading.shifts_ofText (hw : ∀ c ∈ w.toList, isBlank c) (line : String) :
    Shifts w (ofText line) (ofText (w ++ line)) := by
  obtain ⟨leading, hl, hb⟩ := Scan.exists_margin line
  obtain ⟨leading', hl', hb'⟩ := Scan.exists_margin (w ++ line)
  rw [Scan.pastMargin_append hw, Scan.body_shift] at hb'
  have hj : join leading' = w ++ join leading := by
    have h := Scan.join_body_ofLine line
    have h' := Scan.join_body_ofLine (w ++ line)
    rw [hb, join_append] at h
    rw [hb', join_append, join_map_shift] at h'
    rw [← String.append_left_inj, h', String.append_assoc, h]
  have hs : (TokenLine.ofText (w ++ line)).stop = (TokenLine.ofText line).stop.shift w.length := by
    simp [TokenLine.ofText_stop, Scan.stop, Scan.ofLine, Token.shift, String.length_toList,
      Int.add_comm]
  rw [← TokenLine.ofText_body] at hb hb'
  exact TokenLine.shifts_read hs hl hl' hb hb' (Scan.not_begins_pastMargin line) hj

theorem TokenLine.Reads.exists_fallback {r : Reading} (h : l.Reads r)
    (hf : r.command.form = .unstructured) : ∃ f, r.fallback? = some f := by
  cases h
  case scopedKey => cases hf
  all_goals exact ⟨_, rfl⟩

namespace Uri

theorem beq_map_shift (uri? : Option Uri) : uri?.map (·.shift n) == uri? := by
  rw [beq_iff_map_eq beq_iff, Option.map_map]
  rfl

end Uri

namespace ScopedKey

theorem unplaced_shift (k : ScopedKey) : (k.shift n).unplaced = k.unplaced := by
  simp only [unplaced, shift, Option.map_map]
  rfl

theorem beq_map_shift (key? : Option ScopedKey) : key?.map (·.shift n) == key? := by
  rw [beq_iff_map_eq beq_iff, Option.map_map]
  exact congrArg (key?.map ·) (funext unplaced_shift)

end ScopedKey

namespace Cursor

-- What reading the line comes to when the text `w` is put in front of it, where `a` is the outcome
-- without that text and `b` is the outcome with it: what is said stays the same, and everything
-- that has a place moves by the length of the text.
structure Indented (w line : String) (a b : Command × Cursor) : Prop where
  form         : b.fst.form = a.fst.form
  phase        : b.snd.phase = a.snd.phase
  reason?      : b.snd.reason? = a.snd.reason?
  key_beq      : b.fst.scopedKey? == a.fst.scopedKey?
  uri_beq      : b.fst.uri? == a.fst.uri?
  scopedKey?   : b.fst.scopedKey? = a.fst.scopedKey?.map (·.shift w.length)
  uri?         : b.fst.uri? = a.fst.uri?.map (·.shift w.length)
  span         : b.fst.span = ⟨0, w.length + line.length⟩
  unstructured : a.fst.form = .unstructured →
    b.snd.column = a.snd.column + w.length ∧ b.fst.freeText = w ++ line
  scopedKey    : a.fst.form = .scopedKey →
    join b.fst.leading = w ++ join a.fst.leading ∧
    b.fst.trailing = a.fst.trailing.map (·.shift w.length)

theorem indented_parse (hw : ∀ c ∈ w.toList, isBlank c) (line : String) :
    Indented w line (ofTokens (tokenize line)).parse (ofTokens (tokenize (w ++ line))).parse := by
  have h := Reading.shifts_ofText hw line
  exact {
    form         := h.form
    phase        := congrArg (·.getLastD .start) h.entered
    reason?      := by
      have hf := congrArg (·.map (·.reason.text)) h.fallback?
      rwa [Option.map_map] at hf
    scopedKey?   := h.scopedKey?
    key_beq      := h.scopedKey? ▸ ScopedKey.beq_map_shift _
    uri?         := h.uri?
    uri_beq      := h.uri? ▸ Uri.beq_map_shift _
    span         := by
      have hs := Command.span_ofText (w ++ line)
      rwa [String.length_append, Int.natCast_add] at hs
    unstructured hf := by
      obtain ⟨f, ha : (Reading.ofText line).fallback? = some f⟩ :=
        (TokenLine.ofText line).reads_read.exists_fallback hf
      have hb := h.fallback?
      rw [ha] at hb
      have hc : (Reading.ofText (w ++ line)).fallback?.elim 0 (·.column) =
          (Reading.ofText line).fallback?.elim 0 (·.column) + w.length := by
        rw [ha, hb]
        rfl
      exact ⟨hc, Command.freeText_of_unstructured (h.form.trans hf)⟩
    scopedKey hf := ⟨h.leading hf, h.trailing hf⟩ }

theorem indented_parse_key :
    (∀ c ∈ " \t".toList, isBlank c) ∧
    (ofTokens (tokenize " p/k x")).parse.fst.scopedKey?.map (·.span) = some ⟨1, 4⟩ ∧
    (ofTokens (tokenize (" \t" ++ " p/k x"))).parse.fst.scopedKey?.map (·.span) = some ⟨3, 6⟩ := by
  have hw : ∀ c ∈ " \t".toList, isBlank c := List.all_eq_true.mp (by decide)
  have hk : (ofTokens (tokenize " p/k x")).parse.fst.scopedKey?.map (·.span) = some ⟨1, 4⟩ := by cbv
  have h := (indented_parse hw " p/k x").scopedKey?
  refine ⟨hw, hk, ?_⟩
  rw [h, Option.map_map]
  have hs := congrArg (·.map (·.shift 2)) hk
  rwa [Option.map_map] at hs

end Cursor

end BuildShell
