import BuildShell.Index

namespace BuildShell.Index

-- Looking things up in a sequence gives a value, and so it does not fail. The positions in a sequence
-- that is longer than any word are the one exception.
def Yields {α : Type} (size : Nat) (x : Except Fault α) (a : α) : Prop :=
  x = .ok a ∨ (¬fitsWord size ∧ x = .error .tooFar)

variable {α β : Type} {size : Nat} {x : Except Fault α} {a : α} {b : β}

theorem yields_ok (size : Nat) (a : α) : Yields size (.ok a) a :=
  .inl rfl

theorem fitsWord_of_lt {m n : Nat} (h : m < n) (hn : fitsWord n) : fitsWord m := by
  have hl : wordMin ≤ 0 := by decide
  simp only [fitsWord, decide_eq_true_eq] at hn ⊢
  omega

theorem resolve_natCast {pos : Nat} (h : pos < size) :
    resolve size pos = if fitsWord pos then .ok pos else .error .tooFar := by
  have hn : ¬(pos : Int) < 0 := Int.not_lt.mpr (Int.natCast_nonneg pos)
  have hi : 0 ≤ (pos : Int) ∧ (pos : Int) < size := ⟨Int.natCast_nonneg pos, Int.ofNat_lt.mpr h⟩
  simp only [resolve, if_neg hn, if_pos hi, Int.toNat_natCast]
  cases fitsWord pos <;> rfl

theorem yields_resolve {pos : Nat} (h : pos < size) : Yields size (resolve size pos) pos := by
  rw [resolve_natCast h]
  split
  case isTrue     => exact .inl rfl
  case isFalse hw => exact .inr ⟨mt (fitsWord_of_lt h) hw, rfl⟩

namespace Yields

theorem bind {f : α → Except Fault β} (h : Yields size x a) (hf : Yields size (f a) b) :
    Yields size (x >>= f) b := by
  obtain rfl | ⟨hs, rfl⟩ := h
  case inl => exact hf
  case inr => exact .inr ⟨hs, rfl⟩

theorem map (f : α → β) (h : Yields size x a) : Yields size (x.map f) (f a) := by
  obtain rfl | ⟨hs, rfl⟩ := h
  case inl => exact .inl rfl
  case inr => exact .inr ⟨hs, rfl⟩

theorem eq_ok (h : Yields size x a) (hs : fitsWord size) : x = .ok a :=
  h.resolve_right fun hn => hn.left hs

theorem ne_outside (h : Yields size x a) : x ≠ .error .outside := by
  obtain rfl | ⟨_, rfl⟩ := h <;> simp

end Yields

end BuildShell.Index
