import BuildShell.Proofs.Reading.Says
import BuildShell.Proofs.Text.Words

namespace BuildShell

open Text

theorem ScopedKey.stopsAt_of_isBlank {k : ScopedKey} {r : String}
    (h : ∀ c ∈ r.toList.head?, isBlank c) : k.StopsAt r := by
  have hn {c : Char} (hc : c ∈ Identifier.marks) : r.toList.head? ≠ some c := by
    intro hh
    simpa [Identifier.isBlank_of_mem_marks hc] using h c hh
  constructor
  case part    => exact fun c hc => by simp [Identifier.isPart_of_isBlank (h c hc)]
  case intask  => exact fun _ c cs hr => absurd (by simp [hr]) (hn Identifier.colon_mem_marks)
  case config  => exact fun _ _ cs hr => absurd (by simp [hr]) (hn Identifier.colon_mem_marks)
  case project => exact fun _ _ _ => hn Identifier.slash_mem_marks

namespace Command

variable {k : ScopedKey} {w z : String}

theorem says_of_spaced (hk : k.Valid) (hw : ∀ c ∈ w.toList, isBlank c)
    (hz : ∀ c ∈ z.toList, isBlank c) (args : List SpacedWord) :
    (ofText (w ++ k.render ++ spaced args ++ z)).Says w k (spaced args ++ z) :=
  says_iff.mpr {
    line_eq := String.append_assoc ..
    blank   := hw
    valid   := hk
    stops   := ScopedKey.stopsAt_of_isBlank <| isBlank_of_mem_head?_spaced hz }

-- Whatever the arguments of a key consist of, they are read again one by one, and the key before
-- them is read as if they were not there.
theorem arguments_ofText (hk : k.Valid) (hw : ∀ c ∈ w.toList, isBlank c)
    (hz : ∀ c ∈ z.toList, isBlank c) (args : List SpacedWord) :
    let c := ofText (w ++ k.render ++ spaced args ++ z)
    c.form = .scopedKey ∧ c.scopedKey? == some k ∧ c.arguments = args.map (·.word) ∧
      c.freeText = spaced args ++ z := by
  intro c
  have h : c.Says w k (spaced args ++ z) := says_of_spaced hk hw hz args
  refine ⟨h.form, h.scopedKey?, ?_, h.freeText⟩
  rw [arguments, h.freeText, words_spaced hz]

-- An opening brace draws everything after it into one token, and yet the arguments are told apart.
theorem arguments_ofText_leftBrace :
    ScopedKey.Valid { key := { text := "run" } } ∧ (∀ c ∈ " ".toList, isBlank c) ∧
    (∀ c ∈ "\t".toList, isBlank c) ∧ (ofText " run \x7ba b\t").arguments = ["\x7ba", "b"] := by
  have hk : ScopedKey.Valid { key := { text := "run" } } := {
    uri     := by simp
    project := by simp
    config  := by simp
    key     := ⟨'r', ['u', 'n'], rfl, by decide, List.all_eq_true.mp (by decide)⟩
    intask  := by simp }
  have hw : ∀ c ∈ " ".toList, isBlank c := List.all_eq_true.mp (by decide)
  have hz : ∀ c ∈ "\t".toList, isBlank c := List.all_eq_true.mp (by decide)
  have hb : isBlank '{' = false ∧ isBlank 'a' = false ∧ isBlank 'b' = false := by decide
  have ⟨_, _, h, _⟩ := arguments_ofText hk hw hz [
    ⟨" ", "\x7ba", by decide, by decide, hw, by simp [hb]⟩,
    ⟨" ", "b", by decide, by decide, hw, by simp [hb]⟩]
  exact ⟨hk, hw, hz, h⟩

end Command

end BuildShell
