import BuildShell.Proofs.Text

namespace BuildShell.Text

variable {c : Char} {cs ds : List Char} {s : String}

theorem runs_cons_of_isBlank (h : isBlank c) : runs (c :: cs) = runs cs := by
  rw [runs, if_pos h]

theorem runs_append_of_isBlank (h : ∀ c ∈ ds, isBlank c) : runs (ds ++ cs) = runs cs := by
  induction ds
  case nil          => rfl
  case cons c ds hi =>
    have ⟨hc, hds⟩ := List.forall_mem_cons.mp h
    rw [List.cons_append, runs_cons_of_isBlank hc, hi hds]

theorem runs_of_isBlank (h : ∀ c ∈ cs, isBlank c) : runs cs = [] := by
  have hr : runs (cs ++ []) = runs [] := runs_append_of_isBlank h
  rwa [List.append_nil, runs] at hr

theorem runs_append_of_not_isBlank (hd : ds ≠ []) (h : ∀ c ∈ ds, ¬isBlank c)
    (hc : ∀ c ∈ cs.head?, isBlank c) : runs (ds ++ cs) = ds :: runs cs := by
  obtain ⟨d, ds, rfl⟩ := List.exists_cons_of_ne_nil hd
  have ⟨hd, hds⟩ := List.forall_mem_cons.mp h
  have ⟨ht, hr⟩ := run_iff (!isBlank ·) (ds ++ cs) |>.mpr ⟨rfl, by simpa using hds, by simpa using hc⟩
  rw [List.cons_append, runs, if_neg hd, ht, hr]

-- A word in a text, with the blanks that keep it apart from what stands before it.
structure SpacedWord where
  blanks          : String
  word            : String
  blanks_ne_empty : blanks ≠ ""
  word_ne_empty   : word ≠ ""
  blank           : ∀ c ∈ blanks.toList, isBlank c
  no_blank        : ∀ c ∈ word.toList, ¬isBlank c

def SpacedWord.text (w : SpacedWord) : String :=
  w.blanks ++ w.word

def spaced (ws : List SpacedWord) : String :=
  .join (ws.map (·.text))

variable {w : SpacedWord} {ws : List SpacedWord} {blanks : String}

theorem spaced_nil : spaced [] = "" :=
  rfl

theorem spaced_cons : spaced (w :: ws) = w.text ++ spaced ws := by
  simp [spaced]

theorem isBlank_of_mem_head?_spaced (h : ∀ c ∈ blanks.toList, isBlank c) :
    ∀ c ∈ (spaced ws ++ blanks).toList.head?, isBlank c := by
  intro c hc
  cases ws
  case nil        => exact h c <| List.mem_of_mem_head? (by simpa [spaced_nil] using hc)
  case cons w ws =>
    have ⟨d, _, hd⟩ := List.exists_cons_of_ne_nil <| mt String.toList_eq_nil_iff.mp w.blanks_ne_empty
    have hc : d = c := by simpa [spaced_cons, SpacedWord.text, hd] using hc
    exact hc ▸ w.blank d (by simp [hd])

theorem words_spaced (h : ∀ c ∈ blanks.toList, isBlank c) :
    words (spaced ws ++ blanks) = ws.map (·.word) := by
  induction ws
  case nil => simp [words, spaced_nil, runs_of_isBlank h]
  case cons w ws hi =>
    have hw := mt String.toList_eq_nil_iff.mp w.word_ne_empty
    have hr : runs (w.word.toList ++ (spaced ws ++ blanks).toList) = w.word.toList :: _ :=
      runs_append_of_not_isBlank hw w.no_blank <| isBlank_of_mem_head?_spaced h
    have ht : (spaced (w :: ws) ++ blanks).toList =
        w.blanks.toList ++ (w.word.toList ++ (spaced ws ++ blanks).toList) := by
      simp [spaced_cons, SpacedWord.text]
    rw [words, ht, runs_append_of_isBlank w.blank, hr, List.map_cons, ← words, hi,
      String.ofList_toList, List.map_cons]

end BuildShell.Text
