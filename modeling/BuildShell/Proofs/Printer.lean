import BuildShell.Proofs.Outline
import Mathlib.Data.List.TakeWhile

namespace BuildShell

namespace Text.Limits

variable {m : Limits}

def Permits (m : Limits) (s : Span) : Prop :=
  ∀ b ∈ [s.start, s.stop], ∀ k ∈ m.digits?, (Nat.toDigits 10 b.natAbs).length ≤ k

theorem digitsFault?_eq_none_iff {b : Int} :
    m.digitsFault? b = none ↔ ∀ k ∈ m.digits?, (Nat.toDigits 10 b.natAbs).length ≤ k := by
  unfold digitsFault?
  cases m.digits? <;> simp

theorem digitsFault?_pow {k : Nat} (hk : 0 < k) (h : m.digits? = some k) :
    m.digitsFault? (10 ^ k : Nat) = some .digits := by
  have hl : ¬(Nat.toDigits 10 (10 ^ k)).length ≤ k := by
    rw [Nat.length_toDigits_le_iff (by decide) hk]
    exact Nat.lt_irrefl _
  simp [digitsFault?, h, Nat.not_le.mp hl]

theorem permits_iff {s : Span} :
    m.Permits s ↔ m.digitsFault? s.start = none ∧ m.digitsFault? s.stop = none := by
  simp [Permits, digitsFault?_eq_none_iff]

theorem repeatFault?_eq_none_iff {s : String} {count : Int} :
    m.repeatFault? s count = none ↔
      (wordMin ≤ count ∧ count ≤ wordMax) ∧ (1 < count → s.length * count ≤ wordMax) ∧
      (1 < count → ∀ k ∈ m.memory?, s.length * count ≤ k) := by
  by_cases hc : wordMin ≤ count ∧ count ≤ wordMax
  case neg => simp [repeatFault?, fitsWord, hc]
  case pos =>
    by_cases hp : 1 < count
    case neg => simp [repeatFault?, fitsWord, hc, hp, Int.not_lt.mp hp]
    case pos =>
      have hs : ((s.length * count.toNat : Nat) : Int) = s.length * count := by
        rw [Int.natCast_mul, Int.toNat_of_nonneg (by omega)]
      unfold repeatFault? fitsWord
      generalize s.length * count.toNat = size at hs
      simp only [← hs, hc, hp, Int.not_le.mpr hp]
      by_cases hz : (size : Int) > wordMax
      case pos => simp [hz]
      case neg => cases m.memory? <;> simp [hz, Int.not_lt.mp hz]

end Text.Limits

namespace Printer

open Text Outline

variable {α β : Type} {p : Printer} {x : Printing α} {y : α → Printing β} {o : Outline} {d e : Int}
  {l : OutlineLine} {ls ms : List OutlineLine} {n : Node}

def writable (p : Printer) (ls : List OutlineLine) : List OutlineLine :=
  ls.takeWhile (p.fault? · |>.isNone)

-- What it means that a computation writes lines one after the other, and then leaves the printer at
-- a depth. It breaks off at the first line that cannot be written.
structure Writes (p : Printer) (x : Printing α) (o : Outline) (ls : List OutlineLine) (d : Int) :
    Prop where
  ok    : ls.findSome? p.fault? = none → ∃ a, x.run.run o = (.ok a, ⟨d, o.lines ++ ls⟩)
  error : ∀ f, ls.findSome? p.fault? = some f →
    ∃ e, x.run.run o = (.error f, ⟨e, o.lines ++ p.writable ls⟩)

theorem run_bind_of_ok {a : α} {o' : Outline} (h : x.run.run o = (.ok a, o')) :
    (x >>= y).run.run o = (y a).run.run o' := by
  rw [ExceptT.run_bind, StateT.run_bind, h]
  rfl

theorem run_bind_of_error {f : WriteFault} {o' : Outline} (h : x.run.run o = (.error f, o')) :
    (x >>= y).run.run o = (.error f, o') := by
  rw [ExceptT.run_bind, StateT.run_bind, h]
  rfl

theorem writable_append_of_none (h : ls.findSome? p.fault? = none) :
    p.writable (ls ++ ms) = ls ++ p.writable ms := by
  have hl := List.findSome?_eq_none_iff.mp h
  exact List.takeWhile_append_of_pos fun l hm => by rw [hl l hm]; rfl

theorem writable_of_none (h : ls.findSome? p.fault? = none) : p.writable ls = ls := by
  have hw : p.writable (ls ++ []) = ls ++ [] := writable_append_of_none h
  rwa [List.append_nil] at hw

theorem writable_append_of_some {f : WriteFault} (h : ls.findSome? p.fault? = some f) :
    p.writable (ls ++ ms) = p.writable ls := by
  rw [writable, List.takeWhile_append, if_neg]
  case hnc =>
    intro hl
    have ht := List.takeWhile_eq_self_iff.mp <| (List.takeWhile_prefix _).eq_of_length hl
    have hn : ls.findSome? p.fault? = none :=
      List.findSome?_eq_none_iff.mpr fun l hm => Option.isNone_iff_eq_none.mp (ht l hm)
    simp [hn] at h
  rfl

namespace Writes

theorem nil (a : α) (h : x.run.run o = (.ok a, ⟨d, o.lines⟩)) : p.Writes x o [] d where
  ok _      := ⟨a, by rw [h, List.append_nil]⟩
  error _ h := by cases h

theorem congr {x' : Printing α} (h : p.Writes x o ls d) (hr : x'.run.run o = x.run.run o) :
    p.Writes x' o ls d where
  ok    := hr ▸ h.ok
  error := hr ▸ h.error

theorem bind (hx : p.Writes x o ls d) (hy : ∀ a, p.Writes (y a) ⟨d, o.lines ++ ls⟩ ms e) :
    p.Writes (x >>= y) o (ls ++ ms) e where
  ok h := by
    rw [List.findSome?_append, Option.or_eq_none_iff] at h
    obtain ⟨a, ha⟩ := hx.ok h.left
    obtain ⟨b, hb⟩ := (hy a).ok h.right
    exact ⟨b, by rw [run_bind_of_ok ha, hb, List.append_assoc]⟩
  error f h := by
    rw [List.findSome?_append] at h
    cases hl : ls.findSome? p.fault?
    case some g =>
      obtain ⟨e, he⟩ := hx.error g hl
      obtain rfl : g = f := by simpa [hl] using h
      exact ⟨e, by rw [run_bind_of_error he, writable_append_of_some hl]⟩
    case none =>
      obtain ⟨a, ha⟩ := hx.ok hl
      obtain ⟨e, he⟩ := (hy a).error f (by simpa [hl] using h)
      exact ⟨e, by rw [run_bind_of_ok ha, he, writable_append_of_none hl, List.append_assoc]⟩

theorem error_of_append {f : WriteFault} (h : p.Writes x o (ls ++ l :: ms) d)
    (hn : ls.findSome? p.fault? = none) (hf : p.fault? l = some f) :
    ∃ e, x.run.run o = (.error f, ⟨e, o.lines ++ ls⟩) := by
  have hw : p.writable (ls ++ l :: ms) = ls := by
    rw [writable_append_of_none hn, writable, List.takeWhile_cons_of_neg (by simp [hf]),
      List.append_nil]
  have he := h.error f (by simp [hn, hf])
  rwa [hw] at he

theorem lines_eq (h : p.Writes x o ls d) :
    (x.run.run o).snd.lines = o.lines ++ p.writable ls := by
  cases hf : ls.findSome? p.fault?
  case none =>
    obtain ⟨_, hr⟩ := h.ok hf
    rw [hr, writable_of_none hf]
  case some f =>
    obtain ⟨_, hr⟩ := h.error f hf
    rw [hr]

theorem fst_eq {x : Printing PUnit} (h : p.Writes x o ls d) :
    (x.run.run o).fst = (ls.findSome? p.fault?).elim (.ok ⟨⟩) .error := by
  cases hf : ls.findSome? p.fault?
  case none =>
    obtain ⟨_, hr⟩ := h.ok hf
    rw [hr, Option.elim]
  case some f =>
    obtain ⟨_, hr⟩ := h.error f hf
    rw [hr, Option.elim]

theorem of_fst_eq_ok {x : Printing PUnit} (h : p.Writes x o ls d)
    (hr : (x.run.run o).fst = .ok ⟨⟩) : x.run.run o = (.ok ⟨⟩, ⟨d, o.lines ++ ls⟩) := by
  rw [h.fst_eq] at hr
  cases hf : ls.findSome? p.fault?
  case none   => exact (h.ok hf).choose_spec
  case some f => simp [hf] at hr

theorem map {f : α → β} (h : p.Writes x o ls d) : p.Writes (f <$> x) o ls d := by
  have hb : p.Writes (x >>= fun a => pure (f a)) o (ls ++ []) d := h.bind fun a => .nil (f a) rfl
  rw [List.append_nil] at hb
  exact hb

theorem discard (h : p.Writes x o ls d) : p.Writes (discard x) o ls d :=
  h.map

end Writes

theorem writes_write (p : Printer) (l : OutlineLine) (o : Outline) :
    p.Writes (p.write l) o [l] o.depth := by
  unfold write
  cases h : p.fault? l
  case none =>
    exact {
      ok _      := ⟨_, rfl⟩
      error _ h' := by simp [h] at h' }
  case some f =>
    exact {
      ok h'      := by simp [h] at h'
      error g h' := by
        obtain rfl : f = g := by simpa [h] using h'
        exact ⟨_, by simp [writable, h]; rfl⟩ }

theorem writes_emit (p : Printer) (n : Node) (label : String) (o : Outline) :
    p.Writes (p.emit n label) o [⟨o.depth, label, n.span⟩] o.depth :=
  (p.writes_write ⟨o.depth, label, n.span⟩ o).congr rfl

theorem writes_parts {ns : List Node}
    (h : ∀ n ∈ ns, ∀ ls, p.Writes (p.visitor.visit n) ⟨d, ls⟩ (listing p.printable d n) d)
    (ls : List OutlineLine) :
    p.Writes ((ns.map p.visitor.visit).forM Functor.discard) ⟨d, ls⟩
      (ns.flatMap (listing p.printable d)) d := by
  induction ns generalizing ls
  case nil          => exact .nil ⟨⟩ rfl
  case cons n ns hi =>
    have ⟨hn, hns⟩ := List.forall_mem_cons.mp h
    exact (hn ls).discard.bind fun _ => hi hns _

-- The parts of a node go one level deeper, and after them the depth is what it was.
theorem writes_descend {ns : List Node}
    (h : ∀ n ∈ ns, ∀ d ls, p.Writes (p.visitor.visit n) ⟨d, ls⟩ (listing p.printable d n) d)
    (o : Outline) :
    p.Writes (descend (ns.map p.visitor.visit)) o
      (ns.flatMap (listing p.printable (o.depth + 1))) o.depth := by
  have hd : p.Writes (modify fun o => { o with depth := o.depth + 1 }) o [] (o.depth + 1) :=
    .nil ⟨⟩ rfl
  have hp := writes_parts (fun n hn => h n hn (o.depth + 1)) (o.lines ++ [])
  have hu : p.Writes (modify fun o => { o with depth := o.depth - 1 })
      ⟨o.depth + 1, o.lines ++ [] ++ ns.flatMap (listing p.printable (o.depth + 1))⟩ []
      (o.depth + 1 - 1) :=
    .nil ⟨⟩ rfl
  have hw := hd.bind fun _ => hp.bind fun _ => hu
  rwa [List.append_nil, List.nil_append, Int.add_sub_cancel] at hw

theorem writes_closing (p : Printer) (c : Command) (o : Outline) :
    p.Writes (unless c.freeText = "" do
      p.write ⟨(← get).depth + 1, "text " ++ quoted c.freeText p.printable, none⟩) o
      (closing p.printable o.depth (.command c)) o.depth := by
  by_cases h : c.freeText = ""
  case pos =>
    rw [closing, if_pos h, if_pos h]
    exact .nil ⟨⟩ rfl
  case neg =>
    rw [closing, if_neg h, if_neg h]
    exact (p.writes_write ⟨o.depth + 1, _, none⟩ o).congr rfl

theorem writes_visit (p : Printer) (n : Node) (o : Outline) :
    p.Writes (p.visitor.visit n) o (listing p.printable o.depth n) o.depth := by
  have hc : ∀ c ∈ n.children, ∀ d ls,
      p.Writes (p.visitor.visit c) ⟨d, ls⟩ (listing p.printable d c) d :=
    fun c hc d ls => p.writes_visit c ⟨d, ls⟩
  have he := p.writes_emit n (label p.printable n) o
  have hd := writes_descend hc ⟨o.depth, o.lines ++ [⟨o.depth, label p.printable n, n.span⟩]⟩
  rw [Visitor.visit_eq, listing_eq]
  -- Only a command and a scoped key go down to their parts, and every other node is a single line.
  cases n
  case command c   => exact .map <| he.bind fun _ => hd.bind fun _ => p.writes_closing c _
  case scopedKey k =>
    have hn : closing p.printable o.depth (.scopedKey k) = [] := rfl
    rw [hn, List.append_nil]
    exact .map <| he.bind fun _ => hd
  all_goals exact he.map
termination_by n.height
decreasing_by exact Node.height_lt_of_mem_children hc

theorem writes_print (p : Printer) (n : Node) (o : Outline) :
    p.Writes (p.print n) o (listing p.printable o.depth n) o.depth :=
  (p.writes_visit n o).discard

structure Permits (p : Printer) (l : OutlineLine) : Prop where
  count  : wordMin ≤ l.depth ∧ l.depth ≤ wordMax
  size   : 1 < l.depth → p.indent.length * l.depth ≤ wordMax
  memory : 1 < l.depth → ∀ m ∈ p.limits.memory?, p.indent.length * l.depth ≤ m
  digits : ∀ s ∈ l.span?, p.limits.Permits s

theorem placeFault?_eq_none_iff {s : Span} : p.placeFault? s = none ↔ p.limits.Permits s := by
  simp [placeFault?, Limits.permits_iff]

theorem orElse_eq_none_iff {f g : Option WriteFault} :
    (f <|> g) = none ↔ (f = none ∧ g = none) := by
  cases f <;> simp

theorem fault?_eq_none_iff : p.fault? l = none ↔ p.Permits l := by
  have hs : l.span?.bind p.placeFault? = none ↔ ∀ s ∈ l.span?, p.limits.Permits s := by
    simp only [Option.bind_eq_none_iff, placeFault?_eq_none_iff, Option.mem_def]
  rw [fault?, orElse_eq_none_iff, hs, Limits.repeatFault?_eq_none_iff]
  constructor
  case mp  => exact fun ⟨⟨hc, hz, hm⟩, hd⟩ => ⟨hc, hz, hm, hd⟩
  case mpr => exact fun h => ⟨⟨h.count, h.size, h.memory⟩, h.digits⟩

theorem fault?_of_start {s : Span} {f : WriteFault}
    (h : p.limits.repeatFault? p.indent l.depth = none) (hs : l.span? = some s)
    (hf : p.limits.digitsFault? s.start = some f) : p.fault? l = some f := by
  simp [fault?, placeFault?, h, hs, hf]

theorem findSome?_fault?_eq_none_iff :
    ls.findSome? p.fault? = none ↔ ∀ l ∈ ls, p.Permits l := by
  simp only [List.findSome?_eq_none_iff, fault?_eq_none_iff]

theorem depth_of_mem_listing {printable : Char → Bool} (h : l ∈ listing printable d n) :
    d ≤ l.depth ∧ l.depth ≤ d + n.height + 1 := by
  rw [listing_eq_leveled, List.mem_append] at h
  cases h
  case inl h =>
    obtain ⟨q, hq, rfl⟩ := List.mem_map.mp h
    have hl := Node.level_le_of_mem_leveled hq
    simp only [line]
    omega
  case inr h =>
    obtain ⟨s, rfl⟩ := mem_closing h
    simp only
    omega

theorem findSome?_fault?_listing (printable : Char → Bool) (n : Node) :
    (listing printable 0 n).findSome? (fault? { printable, limits := .unbounded }) = none := by
  refine List.findSome?_eq_none_iff.mpr fun l hl => ?_
  have hd := depth_of_mem_listing hl
  have hh : n.height ≤ 2 := by cases n <;> simp [Node.height]
  have hs : ∀ s, placeFault? { printable, limits := .unbounded } s = none := fun _ => rfl
  have hr : ∀ k ≤ 3, Limits.unbounded.repeatFault? "  " (k : Nat) = none := by decide
  obtain ⟨k, hk⟩ := Int.eq_ofNat_of_zero_le hd.left
  have hf : Limits.unbounded.repeatFault? "  " l.depth = none := hk ▸ hr k (by omega)
  rw [fault?, hf]
  cases l.span? <;> simp [hs]

end Printer

theorem Command.outline_eq (c : Command) (printable : Char → Bool) :
    c.outline "  " printable =
      "\n".intercalate ((Outline.listing printable 0 (.command c)).map (·.text "  ")) := by
  have hw := Printer.writes_print { printable, limits := .unbounded } (.command c) {}
  obtain ⟨_, h⟩ := hw.ok <| Printer.findSome?_fault?_listing printable (.command c)
  rw [outline, h]
  rfl

end BuildShell
