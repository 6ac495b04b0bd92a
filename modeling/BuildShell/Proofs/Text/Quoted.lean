import BuildShell.Proofs.Text
import BuildShell.Text.Quoted
import Mathlib.Algebra.Group.Nat.Defs

namespace BuildShell.Text

def hexDigitValue (c : Char) : Nat :=
  if c.isDigit then c.toNat - '0'.toNat else c.toNat - 'a'.toNat + 10

def hexValue (cs : List Char) : Nat :=
  cs.foldl (fun n c => 16 * n + hexDigitValue c) 0

theorem hexDigitValue_digitChar : ∀ d < 16, hexDigitValue (Nat.digitChar d) = d := by
  decide

theorem length_hexDigits (width n : Nat) : (hexDigits width n).length = width := by
  induction width generalizing n
  case zero          => rfl
  case succ width hi => simp [hexDigits, hi]

theorem hexValue_hexDigits (width n : Nat) : hexValue (hexDigits width n) = n % 16 ^ width := by
  induction width generalizing n
  case zero          => simp [hexDigits, hexValue, Nat.mod_one]
  case succ width hi =>
    have hd := hexDigitValue_digitChar (n % 16) (Nat.mod_lt n (by decide))
    rw [hexDigits, hexValue, List.foldl_append, ← hexValue, hi, List.foldl_cons, List.foldl_nil, hd,
      Nat.pow_succ, Nat.mul_comm (16 ^ width), Nat.mod_mul]
    exact Nat.add_comm ..

theorem ofNat_hexValue {c : Char} {width : Nat} (h : c.toNat < 16 ^ width) :
    Char.ofNat (hexValue (hexDigits width c.toNat)) = c := by
  rw [hexValue_hexDigits, Nat.mod_eq_of_lt h, Char.ofNat_toNat]

def unnumbered (width : Nat) (cs : List Char) : Char × List Char :=
  (.ofNat (hexValue (cs.take width)), cs.drop width)

def unescapedMark : List Char → Option (Char × List Char)
  | []        => none
  | 't' :: cs => some ('\t', cs)
  | 'n' :: cs => some ('\n', cs)
  | 'r' :: cs => some ('\r', cs)
  | 'x' :: cs => some (unnumbered 2 cs)
  | 'u' :: cs => some (unnumbered 4 cs)
  | 'U' :: cs => some (unnumbered 8 cs)
  | c :: cs   => some (c, cs)

def unescaped : List Char → Option (Char × List Char)
  | []      => none
  | c :: cs => if c = '\\' then unescapedMark cs else some (c, cs)

variable {printable : Char → Bool} {mark c : Char} {width : Nat} {cs ds rest rest' : List Char}

theorem unnumbered_hexDigits (h : c.toNat < 16 ^ width) :
    unnumbered width (hexDigits width c.toNat ++ rest) = (c, rest) := by
  have hl := length_hexDigits width c.toNat
  rw [unnumbered, List.take_left' hl, List.drop_left' hl, ofNat_hexValue h]

theorem toNat_lt (c : Char) : c.toNat < 16 ^ 8 :=
  c.val.toNat_lt

theorem unescaped_numbered (c : Char) (rest : List Char) :
    unescaped (numbered c ++ rest) = some (c, rest) := by
  unfold numbered
  split
  case isTrue h => exact congrArg some <| unnumbered_hexDigits h
  case isFalse =>
    split
    case isTrue h => exact congrArg some <| unnumbered_hexDigits h
    case isFalse  => exact congrArg some <| unnumbered_hexDigits <| toNat_lt c

def quoteMarks : List Char :=
  ['\x27', '\x22']

theorem quoteMark_mem_quoteMarks (cs : List Char) : quoteMark cs ∈ quoteMarks := by
  unfold quoteMark
  split <;> decide

theorem unescaped_backslash (hm : mark ∈ quoteMarks) (h : c = mark ∨ c = '\\') :
    unescaped ('\\' :: c :: rest) = some (c, rest) := by
  have hm : mark = '\x27' ∨ mark = '\x22' := by simpa [quoteMarks] using hm
  obtain rfl | rfl := h
  case inl => obtain rfl | rfl := hm <;> rfl
  case inr => rfl

theorem unescaped_escaped (hm : mark ∈ quoteMarks) (c : Char) (rest : List Char) :
    unescaped (escaped printable mark c ++ rest) = some (c, rest) := by
  unfold escaped
  split
  case isTrue h => exact unescaped_backslash hm h
  case isFalse h =>
    split
    case isTrue h => rw [h]; rfl
    case isFalse =>
      split
      case isTrue h => rw [h]; rfl
      case isFalse =>
        split
        case isTrue h => rw [h]; rfl
        case isFalse =>
          split
          case isTrue  => exact if_neg fun hc => h (.inr hc)
          case isFalse => exact unescaped_numbered c rest

theorem ne_backslash_of_mem_quoteMarks (hm : mark ∈ quoteMarks) : mark ≠ '\\' := by
  rintro rfl
  exact absurd hm (by decide)

theorem escaped_cases (printable : Char → Bool) (mark c : Char) :
    (∃ d ∈ [mark, '\\', 't', 'n', 'r'], escaped printable mark c = ['\\', d]) ∨
    (printable c ∧ c ∉ [mark, '\\', '\t', '\n', '\r'] ∧ escaped printable mark c = [c]) ∨
    escaped printable mark c = numbered c := by
  unfold escaped
  grind

theorem numbered_cases (c : Char) :
    ∃ d ∈ ['x', 'u', 'U'], ∃ width, numbered c = '\\' :: d :: hexDigits width c.toNat := by
  unfold numbered
  split
  case isTrue => exact ⟨'x', by decide, 2, rfl⟩
  case isFalse =>
    split
    case isTrue  => exact ⟨'u', by decide, 4, rfl⟩
    case isFalse => exact ⟨'U', by decide, 8, rfl⟩

theorem cons_mark_ne (hm : mark ∈ quoteMarks) :
    mark :: rest ≠ escaped printable mark c ++ rest' := by
  have hb := ne_backslash_of_mem_quoteMarks hm
  obtain ⟨_, _, he⟩ | ⟨_, hc, he⟩ | he := escaped_cases printable mark c <;> rw [he]
  case inl     => simp [hb]
  case inr.inl =>
    rintro h
    obtain rfl : mark = c := by simpa using congrArg List.head? h
    simp at hc
  case inr.inr =>
    obtain ⟨_, _, _, hn⟩ := numbered_cases c
    simp [hn, hb]

theorem flatMap_escaped_inj (hm : mark ∈ quoteMarks)
    (h : cs.flatMap (escaped printable mark) ++ mark :: rest =
      ds.flatMap (escaped printable mark) ++ mark :: rest') :
    cs = ds ∧ rest = rest' := by
  induction cs generalizing ds
  case nil =>
    cases ds
    case nil  => simpa using h
    case cons =>
      rw [List.flatMap_cons, List.append_assoc] at h
      exact absurd h (cons_mark_ne hm)
  case cons c cs hi =>
    rw [List.flatMap_cons, List.append_assoc] at h
    cases ds
    case nil         => exact absurd h.symm (cons_mark_ne hm)
    case cons d ds =>
      rw [List.flatMap_cons, List.append_assoc] at h
      have hu := congrArg unescaped h
      simp only [unescaped_escaped hm, Option.some.injEq, Prod.mk.injEq] at hu
      have ⟨hcs, hr⟩ := hi hu.right
      exact ⟨by rw [hu.left, hcs], hr⟩

theorem quotedChars_append_inj
    (h : quotedChars printable cs ++ rest = quotedChars printable ds ++ rest') :
    cs = ds ∧ rest = rest' := by
  simp only [quotedChars, List.cons_append, List.append_assoc, List.nil_append,
    List.cons.injEq] at h
  have ⟨hm, h⟩ := h
  rw [← hm] at h
  exact flatMap_escaped_inj (quoteMark_mem_quoteMarks cs) h

def Only (kind : Char → Prop) (s : String) : Prop :=
  ∀ c ∈ s.toList, kind c

instance {kind : Char → Prop} [DecidablePred kind] (s : String) : Decidable (Only kind s) :=
  s.toList.decidableBAll kind

variable {before before' after after' s t : String}

theorem run_unmarked (printable : Char → Bool) (hb : Only (· ∉ quoteMarks) before)
    (s after : String) :
    (before ++ quoted s printable ++ after).toList.takeWhile (· ∉ quoteMarks) = before.toList ∧
    (before ++ quoted s printable ++ after).toList.dropWhile (· ∉ quoteMarks) =
      quotedChars printable s.toList ++ after.toList := by
  refine run_iff _ _ |>.mpr ⟨?_, fun c hc => by simpa using hb c hc, ?_⟩
  case refine_1 => simp [quoted]
  case refine_2 => simp [quotedChars, quoteMark_mem_quoteMarks]

-- A quotation is found in a text by its first mark.
theorem quoted_between_inj (hb : Only (· ∉ quoteMarks) before) (hb' : Only (· ∉ quoteMarks) before')
    (h : before ++ quoted s printable ++ after = before' ++ quoted t printable ++ after') :
    before = before' ∧ s = t ∧ after = after' := by
  have ⟨ht, hd⟩ := run_unmarked printable hb s after
  have ⟨ht', hd'⟩ := run_unmarked printable hb' t after'
  rw [← h] at ht' hd'
  have ⟨hs, ha⟩ := quotedChars_append_inj (hd.symm.trans hd')
  exact ⟨String.toList_injective (ht.symm.trans ht'), String.toList_injective hs,
    String.toList_injective ha⟩

end BuildShell.Text
