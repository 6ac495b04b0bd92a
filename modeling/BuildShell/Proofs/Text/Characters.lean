import BuildShell.Proofs.Text.Quoted
import BuildShell.Text.Writing

namespace BuildShell.Text

variable {kind : Char → Prop} {printable : Char → Bool} {mark c d : Char} {s t : String}

theorem only_append : Only kind (s ++ t) ↔ Only kind s ∧ Only kind t := by
  simp [Only, or_imp, forall_and]

theorem Only.mono {kind' : Char → Prop} (h : Only kind s) (hk : ∀ c, kind c → kind' c) :
    Only kind' s :=
  fun c hc => hk c <| h c hc

def Visible (c : Char) : Prop :=
  0x20 ≤ c.toNat ∧ c.toNat ≤ 0x7E

instance : DecidablePred Visible :=
  fun c => inferInstanceAs <| Decidable (0x20 ≤ c.toNat ∧ c.toNat ≤ 0x7E)

theorem visible_of_all {cs : List Char} (h : cs.all (Visible ·)) (hc : c ∈ cs) : Visible c := by
  simpa using List.all_eq_true.mp h c hc

theorem notMem_quoteMarks_of_isDigit (h : c.isDigit) : c ∉ quoteMarks := by
  intro hm
  have hm : c = '\x27' ∨ c = '\x22' := by simpa [quoteMarks] using hm
  obtain rfl | rfl := hm <;> simp at h

theorem visible_of_mem_quoteMarks (h : c ∈ quoteMarks) : Visible c :=
  visible_of_all (by decide) h

theorem visible_of_mem_hexDigits {width n : Nat} (h : c ∈ hexDigits width n) : Visible c := by
  have hd : ∀ d < 16, Visible (Nat.digitChar d) := by decide
  induction width generalizing n
  case zero          => simp [hexDigits] at h
  case succ width hi =>
    rw [hexDigits, List.mem_append, List.mem_singleton] at h
    obtain h | rfl := h
    case inl => exact hi h
    case inr => exact hd _ <| Nat.mod_lt _ (by decide)

theorem visible_of_mem_numbered (h : d ∈ numbered c) : Visible d := by
  obtain ⟨m, hm, _, hn⟩ := numbered_cases c
  rw [hn, List.mem_cons, List.mem_cons] at h
  obtain rfl | rfl | h := h
  case inl     => decide
  case inr.inl => exact visible_of_all (by decide) hm
  case inr.inr => exact visible_of_mem_hexDigits h

theorem mem_escaped (hm : mark ∈ quoteMarks) (h : d ∈ escaped printable mark c) :
    Visible d ∨ (printable d ∧ d ∉ ['\t', '\n', '\r']) := by
  have hp {d : Char} (hd : d ∈ ['\\', 't', 'n', 'r']) : Visible d := visible_of_all (by decide) hd
  obtain ⟨e, hd, he⟩ | ⟨hc, hn, he⟩ | he := escaped_cases printable mark c <;> rw [he] at h
  case inl =>
    obtain rfl | rfl : d = '\\' ∨ d = e := by simpa using h
    case inl => exact .inl (by decide)
    case inr => exact .inl <| (List.mem_cons.mp hd).elim (· ▸ visible_of_mem_quoteMarks hm) hp
  case inr.inl =>
    obtain rfl := List.mem_singleton.mp h
    exact .inr ⟨hc, by simp_all⟩
  case inr.inr => exact .inl <| visible_of_mem_numbered h

-- The characters of this kind are enough to show everything: the visible ones are among them, and
-- the printable ones that are not escaped.
structure Legible (printable : Char → Bool) (kind : Char → Prop) : Prop where
  visible   : ∀ c, Visible c → kind c
  printable : ∀ c, printable c → c ∉ ['\t', '\n', '\r'] → kind c

namespace Legible

theorem only (h : Legible printable kind) (hs : Only Visible s) : Only kind s :=
  hs.mono h.visible

theorem only_quoted (h : Legible printable kind) (s : String) : Only kind (quoted s printable) := by
  have hm := quoteMark_mem_quoteMarks s.toList
  intro c hc
  simp only [quoted, quotedChars, String.toList_ofList, List.mem_append, List.mem_cons,
    List.mem_flatMap, List.not_mem_nil, or_false] at hc
  obtain (rfl | ⟨_, _, hc⟩) | rfl := hc
  case inl.inl => exact h.visible _ <| visible_of_mem_quoteMarks hm
  case inl.inr =>
    exact (mem_escaped hm hc).elim (h.visible c) fun hp => h.printable c hp.left hp.right
  case inr     => exact h.visible _ <| visible_of_mem_quoteMarks hm

end Legible

theorem legible_ne_newline : Legible printable (· ≠ '\n') where
  visible   := by rintro _ h rfl; exact absurd h (by decide)
  printable := by rintro _ _ h rfl; simp at h

theorem only_toString (hm : kind '-') (hd : ∀ c, c.isDigit → kind c) (n : Int) :
    Only kind (toString n) := by
  have hn (n : Nat) : Only kind n.repr := by
    intro c hc
    rw [← Nat.toString_eq_repr, Nat.toString_eq_ofList_toDigits, String.toList_ofList] at hc
    exact hd c <| Nat.isDigit_of_mem_toDigits (by decide) (by decide) hc
  rw [Int.toString_eq_repr, Int.repr_eq_if]
  split
  case isTrue  => exact hn _
  case isFalse => exact only_append.mpr ⟨by simpa [Only] using hm, hn _⟩

theorem visible_of_isDigit (h : c.isDigit) : Visible c := by
  rw [Char.isDigit, Bool.and_eq_true, decide_eq_true_eq, decide_eq_true_eq] at h
  exact ⟨Nat.le_trans (by decide) h.left, Nat.le_trans h.right (by decide)⟩

theorem only_visible_toString (n : Int) : Only Visible (toString n) :=
  only_toString (by decide) (fun _ => visible_of_isDigit) n

theorem only_notMem_quoteMarks_toString (n : Int) : Only (· ∉ quoteMarks) (toString n) :=
  only_toString (by decide) (fun _ => notMem_quoteMarks_of_isDigit) n

theorem toString_natCast_inj {n m : Nat} (h : toString (n : Int) = toString (m : Int)) : n = m := by
  have hr (n : Nat) : toString (n : Int) = .ofList (Nat.toDigits 10 n) := by
    rw [Int.toString_eq_repr, Int.repr_eq_if, if_pos (Int.natCast_nonneg n), Int.toNat_natCast,
      Nat.repr_eq_ofList_toDigits]
  have hd := congrArg (fun s : String => Nat.ofDigitChars 10 s.toList 0) h
  simpa [hr, Nat.ofDigitChars_toDigits] using hd

theorem only_padLeft (hs : kind ' ') (h : Only kind s) (width : Nat) :
    Only kind (padLeft width s) := by
  intro c hc
  rw [padLeft, String.toList_ofList, List.leftpad, List.mem_append, List.mem_replicate] at hc
  exact hc.elim (fun hc => hc.right ▸ hs) (h c)

theorem only_padRight (hs : kind ' ') (h : Only kind s) (width : Nat) :
    Only kind (padRight width s) := by
  intro c hc
  rw [padRight, String.toList_ofList, List.rightpad, List.mem_append, List.mem_replicate] at hc
  exact hc.elim (h c) fun hc => hc.right ▸ hs

theorem toList_repeated (s : String) (count : Int) :
    (repeated s count).toList = (List.replicate count.toNat s).flatMap String.toList := by
  simp [repeated_eq]

theorem only_repeated (h : Only kind s) (count : Int) : Only kind (repeated s count) := by
  intro c hc
  rw [toList_repeated] at hc
  obtain ⟨_, hl, hc⟩ := List.mem_flatMap.mp hc
  exact h c <| (List.mem_replicate.mp hl).right ▸ hc

theorem exists_intercalate_cons (sep s : String) (ss : List String) :
    ∃ rest, sep.intercalate (s :: ss) = s ++ rest := by
  cases ss
  case nil  => exact ⟨"", by simp⟩
  case cons => exact ⟨_, by rw [String.intercalate_cons_cons, String.append_assoc]⟩

def pieces (s : String) : List String :=
  (s.toList.splitOn '\n').map .ofList

theorem pieces_intercalate {ls : List String} (hn : ls ≠ []) (h : ∀ l ∈ ls, Only (· ≠ '\n') l) :
    pieces ("\n".intercalate ls) = ls := by
  have hc : ∀ l ∈ ls.map String.toList, '\n' ∉ l := by
    simpa using fun l hl hc => h l hl '\n' hc rfl
  have hs : ("\n".intercalate ls).toList.splitOn '\n' = ls.map String.toList := by
    simpa using List.splitOn_intercalate '\n' hc (by simpa using hn)
  rw [pieces, hs, List.map_map]
  simp [Function.comp_def]

theorem intercalate_newline_inj {ls ms : List String} (hl : ls ≠ []) (hm : ms ≠ [])
    (hls : ∀ l ∈ ls, Only (· ≠ '\n') l) (hms : ∀ l ∈ ms, Only (· ≠ '\n') l)
    (h : "\n".intercalate ls = "\n".intercalate ms) : ls = ms := by
  rw [← pieces_intercalate hl hls, h, pieces_intercalate hm hms]

end BuildShell.Text
