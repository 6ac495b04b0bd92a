import BuildShell.Proofs.Node.Equality
import BuildShell.Proofs.Outline.Printing
import BuildShell.Proofs.Walk

namespace BuildShell

open Text

def Visit.unplaced (v : Visit) : Visit :=
  { v with node := v.node.unplaced }

structure Visit.Alike (v w : Visit) : Prop where
  handler : v.handler = w.handler
  node    : v.node == w.node
  name    : v.node.name = w.node.name
  text?   : v.node.text? = w.node.text?

theorem Visit.alike_of_unplaced_eq {v w : Visit} (h : v.unplaced = w.unplaced) : v.Alike w := by
  have hn : v.node.unplaced = w.node.unplaced := congrArg (·.node) h
  exact {
    handler := congrArg (·.handler) h
    node    := Node.beq_iff .. |>.mpr hn
    name    := Node.congr_of_unplaced_eq Node.name_unplaced hn
    text?   := Node.congr_of_unplaced_eq Node.text?_unplaced hn }

theorem Visitor.calls_unplaced (provided : List Handler) (n : Node) :
    calls provided n.unplaced = (calls provided n).map (·.unplaced) := by
  have hc (m : Node) : (called? provided m.unplaced).map (Visit.mk · m.unplaced) =
      ((called? provided m).map (Visit.mk · m)).map (·.unplaced) := by
    rw [called?, m.name_unplaced, ← called?, Option.map_map]
    rfl
  rw [calls_eq, calls_eq, Node.preorder_unplaced, List.filterMap_map, List.map_filterMap]
  exact congrArg (List.filterMap · _) <| funext hc

def SameUpToMark (s t : String) : Prop :=
  s = t ∨ ∃ front p q, s = front ++ Span.mark p ∧ t = front ++ Span.mark q

namespace OutlineLine

def unplaced (l : OutlineLine) : OutlineLine :=
  { l with span? := l.span?.map fun _ => .origin }

theorem sameUpToMark_of_unplaced_eq {l m : OutlineLine} (indent : String)
    (h : l.unplaced = m.unplaced) : SameUpToMark (l.text indent) (m.text indent) := by
  have hd : l.depth = m.depth := congrArg (·.depth) h
  have hl : l.label = m.label := congrArg (·.label) h
  have hs : l.span?.map (fun _ => Span.origin) = m.span?.map fun _ => Span.origin :=
    congrArg (·.span?) h
  rw [text, text, hd, hl]
  cases hp : l.span? <;> cases hq : m.span? <;> simp [hp, hq] at hs
  case none.none     => exact .inl rfl
  case some.some p q => exact .inr ⟨_, p, q, rfl, rfl⟩

end OutlineLine

namespace Outline

variable {a b : Node}

theorem label_unplaced (printable : Char → Bool) (n : Node) :
    label printable n.unplaced = label printable n := by
  cases n
  case scopedKey k => simp only [Node.unplaced, label, k.render_unplaced]
  all_goals rfl

theorem closing_unplaced (printable : Char → Bool) (depth : Int) (n : Node) :
    closing printable depth n.unplaced = (closing printable depth n).map (·.unplaced) := by
  cases n
  case command c =>
    by_cases h : c.freeText = "" <;>
      simp [closing, Node.unplaced, c.freeText_unplaced, OutlineLine.unplaced, h]
  all_goals rfl

theorem listing_unplaced (printable : Char → Bool) (depth : Int) (n : Node) :
    listing printable depth n.unplaced = (listing printable depth n).map (·.unplaced) := by
  have hl (p : Nat × Node) : line printable depth (Prod.map id Node.unplaced p) =
      (line printable depth p).unplaced := by
    rw [line, line, Prod.map_snd, Prod.map_fst, label_unplaced, Node.span_unplaced]
    rfl
  rw [listing_eq_leveled, listing_eq_leveled, Node.leveled_unplaced, closing_unplaced,
    List.map_append, List.map_map, List.map_map]
  exact congrArg (· ++ _) <| List.map_congr_left fun p _ => hl p

theorem exists_span_of_mem_listing {printable : Char → Bool} {depth : Int} {l : OutlineLine}
    {n : Node} (h : l ∈ listing printable depth n) :
    ∀ s ∈ l.span?, ∃ m ∈ n.preorder, m.span = s := by
  rw [listing_eq_leveled, List.mem_append] at h
  intro s hs
  cases h
  case inl h =>
    obtain ⟨q, hq, rfl⟩ := List.mem_map.mp h
    refine ⟨q.snd, ?_, Option.some.inj hs⟩
    rw [← n.map_snd_leveled 0]
    exact List.mem_map_of_mem hq
  case inr h =>
    obtain ⟨t, rfl⟩ := mem_closing h
    cases hs

theorem map_unplaced_listing_eq (printable : Char → Bool) (depth : Int)
    (h : a.unplaced = b.unplaced) :
    (listing printable depth a).map (·.unplaced) =
    (listing printable depth b).map (·.unplaced) := by
  rw [← listing_unplaced, h, listing_unplaced]

end Outline

namespace Printer

open Outline

variable {p : Printer} {o : Outline} {a b : Node}

def printed (p : Printer) (o : Outline) (n : Node) : Except WriteFault PUnit × Outline :=
  (p.print n).run.run o

def texts (p : Printer) (o : Outline) (n : Node) : List String :=
  (p.printed o n).snd.texts p.indent

-- Two nodes that are printed in the same way but for their places. As far as both are printed, the
-- lines are the same. One can end sooner than the other, but only over a number that is too long.
structure PrintsAlike (p : Printer) (o : Outline) (a b : Node) : Prop where
  texts     : List.Forall₂ SameUpToMark
    ((p.texts o a).take (p.texts o b).length) ((p.texts o b).take (p.texts o a).length)
  returned  : (p.printed o a).fst = .ok ⟨⟩ → (p.printed o b).fst = .ok ⟨⟩ →
    (p.printed o a).snd.depth = (p.printed o b).snd.depth ∧
    (p.texts o a).length = (p.texts o b).length
  permitted : (∀ m ∈ a.preorder ++ b.preorder, p.limits.Permits m.span) →
    (p.printed o a).fst = (p.printed o b).fst ∧ (p.texts o a).length = (p.texts o b).length

theorem texts_eq (p : Printer) (o : Outline) (n : Node) :
    p.texts o n =
    (o.lines ++ p.writable (listing p.printable o.depth n)).map (·.text p.indent) := by
  rw [texts, Outline.texts, printed, (p.writes_print n o).lines_eq]

theorem printed_of_fault?_eq_none {l : OutlineLine} {n : Node}
    (h : listing p.printable o.depth n = [l]) (hf : p.fault? l = none) :
    (p.printed o n).fst = .ok ⟨⟩ ∧ p.texts o n = o.texts p.indent ++ [l.text p.indent] := by
  have hw : p.writable [l] = [l] := by simp [writable, hf]
  rw [texts_eq, printed, (p.writes_print n o).fst_eq, h, hw, List.findSome?_singleton, hf,
    List.map_append]
  exact ⟨rfl, rfl⟩

theorem printed_of_fault?_eq_some {l : OutlineLine} {n : Node} {f : WriteFault}
    (h : listing p.printable o.depth n = [l]) (hf : p.fault? l = some f) :
    (p.printed o n).fst = .error f ∧ p.texts o n = o.texts p.indent := by
  have hw : p.writable [l] = [] := by simp [writable, hf]
  rw [texts_eq, printed, (p.writes_print n o).fst_eq, h, hw, List.findSome?_singleton, hf,
    List.append_nil]
  exact ⟨rfl, rfl⟩

def due (p : Printer) (o : Outline) (n : Node) : List String :=
  (o.lines ++ listing p.printable o.depth n).map (·.text p.indent)

theorem texts_eq_take (p : Printer) (o : Outline) (n : Node) :
    p.texts o n = (p.due o n).take (p.texts o n).length := by
  have hw : p.writable (listing p.printable o.depth n) <+: listing p.printable o.depth n :=
    List.takeWhile_prefix _
  have ht : p.texts o n <+: p.due o n :=
    texts_eq p o n ▸ ((List.prefix_append_right_inj o.lines).mpr hw).map _
  exact List.prefix_iff_eq_take.mp ht

theorem forall₂_due (p : Printer) (o : Outline) (h : a.unplaced = b.unplaced) :
    List.Forall₂ SameUpToMark (p.due o a) (p.due o b) := by
  have hl : (o.lines ++ listing p.printable o.depth a).map (·.unplaced) =
      (o.lines ++ listing p.printable o.depth b).map (·.unplaced) := by
    rw [List.map_append, List.map_append, map_unplaced_listing_eq _ _ h]
  rw [due, due, List.forall₂_map_left_iff, List.forall₂_map_right_iff]
  exact forall₂_of_map_eq (fun _ _ => OutlineLine.sameUpToMark_of_unplaced_eq p.indent) hl

theorem fault?_of_permits {l : OutlineLine} (h : ∀ s ∈ l.span?, p.limits.Permits s) :
    p.fault? l = p.limits.repeatFault? p.indent l.depth := by
  have hs : l.span?.bind p.placeFault? = none :=
    Option.bind_eq_none_iff.mpr fun s hs => placeFault?_eq_none_iff.mpr <| h s hs
  rw [fault?, hs]
  cases p.limits.repeatFault? p.indent l.depth <;> rfl

theorem map_fault?_listing {n : Node} {d : Int} (h : ∀ m ∈ n.preorder, p.limits.Permits m.span) :
    (listing p.printable d n).map p.fault? =
    ((listing p.printable d n).map (·.unplaced)).map (p.limits.repeatFault? p.indent ·.depth) := by
  rw [List.map_map]
  refine List.map_congr_left fun l hl => fault?_of_permits fun s hs => ?_
  obtain ⟨m, hm, rfl⟩ := exists_span_of_mem_listing hl s hs
  exact h m hm

theorem length_writable (p : Printer) (ls : List OutlineLine) :
    (p.writable ls).length = ((ls.map p.fault?).takeWhile (·.isNone)).length := by
  rw [List.takeWhile_map, List.length_map]
  rfl

theorem printsAlike_of_unplaced_eq (p : Printer) (o : Outline) (h : a.unplaced = b.unplaced) :
    p.PrintsAlike o a b := by
  have hl := map_unplaced_listing_eq p.printable o.depth h
  have hn : (listing p.printable o.depth a).length = (listing p.printable o.depth b).length := by
    simpa using congrArg List.length hl
  constructor
  case texts =>
    have ht (n : Node) (k : Nat) :
        (p.texts o n).take k = (p.due o n).take (min k (p.texts o n).length) :=
      congrArg (List.take k) (texts_eq_take p o n) |>.trans List.take_take
    rw [ht a, ht b, Nat.min_comm]
    exact List.forall₂_take _ <| p.forall₂_due o h
  case returned =>
    intro ha hb
    have ha := (p.writes_print a o).of_fst_eq_ok ha
    have hb := (p.writes_print b o).of_fst_eq_ok hb
    simp [texts, Outline.texts, printed, ha, hb, hn]
  case permitted =>
    intro hp
    obtain ⟨hpa, hpb⟩ := List.forall_mem_append.mp hp
    have hf : (listing p.printable o.depth a).map p.fault? =
        (listing p.printable o.depth b).map p.fault? := by
      rw [map_fault?_listing hpa, map_fault?_listing hpb, hl]
    constructor
    case left =>
      have hs := congrArg (·.findSome? id) hf
      simp only [List.findSome?_map] at hs
      rw [printed, printed, (p.writes_print a o).fst_eq, (p.writes_print b o).fst_eq]
      exact congrArg (Option.elim · _ _) hs
    case right =>
      simp only [texts_eq, List.length_map, List.length_append, length_writable, hf]

-- A key can be printed, and an equal one that is too far away cannot. With an empty indentation the
-- depth does not show in a line, but there is no line at a depth that does not fit into a word.
theorem not_printed_farKey :
    let p : Printer := { indent := "" }
    let a : Node := .key ⟨"k", ⟨0, 0⟩⟩
    let b : Node := .key ⟨"k", ⟨1, 2⟩⟩
    (a == farKey ∧ a == b) ∧
    ((p.printed {} a).fst = .ok ⟨⟩ ∧ p.texts {} a = ["Key 'k' @0..0"]) ∧
    ((p.printed {} farKey).fst = .error .digits ∧ p.texts {} farKey = []) ∧
    ((p.printed { depth := 9223372036854775808 } b).fst = .error .count ∧
      p.texts { depth := 9223372036854775808 } b = []) ∧
    ¬∀ (p : Printer) (o : Outline) (a b : Node),
      a == b → (p.texts o a).length = (p.texts o b).length := by
  intro p a b
  have hka : label p.printable a = "Key 'k'" := by decide
  have hkb : label p.printable b = "Key 'k'" := by decide
  have ha : listing p.printable 0 a = [⟨0, "Key 'k'", some ⟨0, 0⟩⟩] := by
    rw [listing_eq, hka]
    rfl
  have hb : listing p.printable 9223372036854775808 b =
      [⟨9223372036854775808, "Key 'k'", some ⟨1, 2⟩⟩] := by
    rw [listing_eq, hkb]
    rfl
  have ht : OutlineLine.text "" ⟨0, "Key 'k'", some ⟨0, 0⟩⟩ = "Key 'k' @0..0" := by decide
  obtain ⟨hra, hta⟩ := printed_of_fault?_eq_none (o := {}) ha (by decide)
  obtain ⟨hrf, htf⟩ :=
    printed_of_fault?_eq_some (p := p) (o := {}) listing_farKey (fault?_farLine ..)
  have hfb : p.fault? ⟨9223372036854775808, "Key 'k'", some ⟨1, 2⟩⟩ = some .count := by decide
  refine ⟨⟨rfl, rfl⟩, ⟨hra, by rw [hta, ht]; rfl⟩, ⟨hrf, htf⟩,
    printed_of_fault?_eq_some (o := { depth := 9223372036854775808 }) hb hfb, fun h => ?_⟩
  have hl := h p {} a farKey rfl
  rw [hta, htf, List.length_append, List.length_singleton] at hl
  omega

end Printer

namespace Node

structure Alike (a b : Node) : Prop where
  name     : a.name = b.name
  text?    : a.text? = b.text?
  render?  : a.render? = b.render?
  uri      : ∀ u v, a = .uri u → b = .uri v → u.malformed = v.malformed
  command  : ∀ c d, a = .command c → b = .command d →
    c.form = d.form ∧ c.leading = d.leading ∧ c.trailing = d.trailing ∧
    c.freeText = d.freeText ∧ c.arguments = d.arguments
  children : List.Forall₂ (· == ·) a.children b.children
  calls    : ∀ provided,
    List.Forall₂ Visit.Alike (Visitor.calls provided a) (Visitor.calls provided b)
  prints   : ∀ (p : Printer) o, p.PrintsAlike o a b

variable {a b : Node}

theorem alike_of_unplaced_eq (h : a.unplaced = b.unplaced) : a.Alike b where
  name    := congr_of_unplaced_eq name_unplaced h
  text?   := congr_of_unplaced_eq text?_unplaced h
  render? := congr_of_unplaced_eq render?_unplaced h
  uri u v hu hv := by
    subst hu hv
    exact congrArg (·.malformed) <| uri.inj h
  command c d hc hd := by
    subst hc hd
    obtain ⟨hf, _, _, hl, ht⟩ := Command.unplaced_eq_iff c d |>.mp <| command.inj h
    have hs : c.freeText = d.freeText := congrArg Token.join ht
    exact ⟨hf, hl, ht, hs, congrArg Text.words hs⟩
  children :=
    forall₂_of_map_eq (fun a b => (beq_iff a b).mpr) <| congr_of_unplaced_eq children_unplaced h
  calls provided :=
    forall₂_of_map_eq (fun _ _ => Visit.alike_of_unplaced_eq) <|
      congr_of_unplaced_eq (Visitor.calls_unplaced provided) h
  prints p o := p.printsAlike_of_unplaced_eq o h

-- Nodes are equal just if they become the same when all places in them are left out, and the line
-- as a whole. Equal nodes cannot be told apart by what is done with them, unless a place is too far
-- away to be written.
theorem beq_iff_and_alike :
    (Equivalence fun a b : Node => a == b) ∧
    ∀ a b : Node, (a == b ↔ a.unplaced = b.unplaced) ∧ (a == b → a.Alike b) :=
  ⟨equivalence_beq, fun a b => ⟨beq_iff a b, fun h => alike_of_unplaced_eq <| beq_iff a b |>.mp h⟩⟩

end Node

end BuildShell
