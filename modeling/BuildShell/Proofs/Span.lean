import BuildShell.Span
import Mathlib.Data.List.Basic

namespace BuildShell.Span

-- A span is where a piece of text stands in a line, with the given text before it.
structure Covers (s : Span) (line before piece : String) : Prop where
  start : s.start = before.length
  stop  : s.stop = before.length + piece.length
  line  : ∃ after, line = before ++ piece ++ after

variable {s s' : Span} {line before piece mid piece' : String}

theorem place_natCast_eq_min (size n : Nat) : place size n = min size n := by
  have hn : ¬(n : Int) < 0 := Int.not_lt.mpr (Int.natCast_nonneg n)
  rw [place, if_neg hn, Int.toNat_natCast]

theorem place_natCast {n size : Nat} (h : n ≤ size) : place size n = n := by
  rw [place_natCast_eq_min, Nat.min_eq_right h]

theorem slice_zero (n : Nat) (text : String) :
    slice ⟨0, n⟩ text = .ofList (text.toList.take n) := by
  have hz : place text.toList.length 0 = 0 := place_natCast (Nat.zero_le _)
  rw [slice, hz, List.drop_zero, place_natCast_eq_min, Nat.min_comm, ← List.take_eq_take_min]

theorem covers_whole (line : String) : Covers ⟨0, line.length⟩ line "" line where
  start := rfl
  stop  := (Int.zero_add _).symm
  line  := ⟨"", by rw [String.empty_append, String.append_empty]⟩

namespace Covers

theorem start_nonneg (h : s.Covers line before piece) : 0 ≤ s.start :=
  h.start ▸ Int.natCast_nonneg _

theorem start_le_stop (h : s.Covers line before piece) : s.start ≤ s.stop := by
  rw [h.start, h.stop]
  omega

theorem stop_le_length (h : s.Covers line before piece) : s.stop ≤ line.length := by
  have ⟨after, hl⟩ := h.line
  rw [h.stop, hl, String.length_append, String.length_append]
  omega

theorem slice_eq (h : s.Covers line before piece) : s.slice line = piece := by
  have ⟨after, hl⟩ := h.line
  have hc : line.toList = before.toList ++ (piece.toList ++ after.toList) := by simp [hl]
  have hs : place line.toList.length s.start = before.length := by
    rw [h.start, place_natCast (by simp [hc, String.length_toList])]
  have ht : place line.toList.length s.stop = before.length + piece.length := by
    rw [h.stop, ← Int.natCast_add, place_natCast (by simp [hc, String.length_toList])]
  rw [slice, hs, ht, List.drop_take, Nat.add_sub_cancel_left, hc,
    List.drop_left' String.length_toList, List.take_left' String.length_toList,
    String.ofList_toList]

theorem between (h : s.Covers line before piece)
    (h' : s'.Covers line (before ++ piece ++ mid) piece') :
    Covers ⟨s.stop, s'.start⟩ line (before ++ piece) mid where
  start := by simp [h.stop]
  stop  := by simp [h'.start]
  line  := by
    have ⟨after, hl⟩ := h'.line
    exact ⟨piece' ++ after, by rw [hl, String.append_assoc]⟩

end Covers

end BuildShell.Span
