import BuildShell.Identifier
import BuildShell.Text.Blank

namespace BuildShell.Text

theorem run_iff {α : Type} (p : α → Bool) (as : List α) {run rest : List α} :
    (as.takeWhile p = run ∧ as.dropWhile p = rest) ↔
    (as = run ++ rest ∧ (∀ a ∈ run, p a) ∧ ∀ a ∈ rest.head?, ¬p a) where
  mp := by
    rintro ⟨rfl, rfl⟩
    refine ⟨List.takeWhile_append_dropWhile.symm, List.all_eq_true.mp List.all_takeWhile, ?_⟩
    intro a ha
    have h := List.head?_dropWhile_not p as
    rw [ha] at h
    exact Bool.eq_false_iff.mp h
  mpr := by
    rintro ⟨rfl, ht, hr⟩
    have hr : rest.takeWhile p = [] ∧ rest.dropWhile p = rest := by cases rest <;> simp_all
    simp [List.takeWhile_append_of_pos ht, List.dropWhile_append_of_pos ht, hr]

def numbersIn (ranges : List (Nat × Nat)) : List Nat :=
  ranges.flatMap fun (lo, hi) => .range' lo (hi + 1 - lo)

theorem mem_numbersIn_of_inRanges {ranges : List (Nat × Nat)} {n : Nat} (h : inRanges ranges n) :
    n ∈ numbersIn ranges := by
  induction ranges
  case nil => simp [inRanges] at h
  case cons range ranges hi =>
    simp only [inRanges] at h
    split at h
    case isTrue => contradiction
    case isFalse =>
      simp only [Bool.or_eq_true, decide_eq_true_eq] at h
      simp only [numbersIn, List.flatMap_cons, List.mem_append, List.mem_range'_1]
      cases h
      case inl h => left; omega
      case inr h => right; exact hi h

-- There are few blanks, so that each of them can be looked up among the letters and the numerals.
theorem inRanges_letterRanges_of_mem_blanks :
    ∀ n ∈ numbersIn blankRanges, inRanges letterRanges n = false := by
  decide +kernel

theorem inRanges_numeralRanges_of_mem_blanks :
    ∀ n ∈ numbersIn blankRanges, inRanges numeralRanges n = false := by
  decide +kernel

theorem isLetter_of_isBlank {c : Char} (h : isBlank c) : isLetter c = false :=
  inRanges_letterRanges_of_mem_blanks _ (mem_numbersIn_of_inRanges h)

theorem isNumeral_of_isBlank {c : Char} (h : isBlank c) : isNumeral c = false :=
  inRanges_numeralRanges_of_mem_blanks _ (mem_numbersIn_of_inRanges h)

end BuildShell.Text

namespace BuildShell.Identifier

open Text

theorem isStart_of_isBlank {c : Char} (h : isBlank c) : isStart c = false :=
  isLetter_of_isBlank h

theorem isBlank_of_isStart {c : Char} (h : isStart c) : isBlank c = false :=
  Bool.eq_false_iff.mpr fun hb => by simp [isStart_of_isBlank hb] at h

theorem isPart_of_isStart {c : Char} (h : isStart c) : isPart c := by
  have h : isLetter c := h
  simp [isPart, isAlphanumeric, h]

theorem isPart_of_isBlank {c : Char} (h : isBlank c) : isPart c = false := by
  have hn : c ≠ '-' ∧ c ≠ '_' := by
    constructor <;> rintro rfl <;> exact absurd h (by decide)
  simp [isPart, isAlphanumeric, isLetter_of_isBlank h, isNumeral_of_isBlank h, hn]

def marks : List Char :=
  ['/', ':', '{', '}']

theorem slash_mem_marks : '/' ∈ marks := by
  simp [marks]

theorem colon_mem_marks : ':' ∈ marks := by
  simp [marks]

theorem leftBrace_mem_marks : '{' ∈ marks := by
  simp [marks]

theorem rightBrace_mem_marks : '}' ∈ marks := by
  simp [marks]

theorem isPart_of_mem_marks {c : Char} (h : c ∈ marks) : isPart c = false := by
  have hm : marks.all (!isPart ·) := by decide
  simpa using List.all_eq_true.mp hm c h

theorem isBlank_of_mem_marks {c : Char} (h : c ∈ marks) : isBlank c = false := by
  have hm : marks.all (!isBlank ·) := by decide
  simpa using List.all_eq_true.mp hm c h

theorem isStart_of_mem_marks {c : Char} (h : c ∈ marks) : isStart c = false :=
  Bool.eq_false_iff.mpr fun hs => by simpa [isPart_of_mem_marks h] using isPart_of_isStart hs

def Valid (s : String) : Prop :=
  ∃ c cs, s.toList = c :: cs ∧ isStart c ∧ ∀ d ∈ cs, isPart d

theorem Valid.head?_ne_some {s : String} {c : Char} (h : Valid s) (hc : c ∈ marks)
    (cs : List Char) : (s.toList ++ cs).head? ≠ some c := by
  have ⟨d, _, hs, hd, _⟩ := h
  rintro hh
  obtain rfl : d = c := by simpa [hs] using hh
  simp [isStart_of_mem_marks hc] at hd

end BuildShell.Identifier
